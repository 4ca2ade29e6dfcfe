import Mathlib.Data.List.Forall2
import YunLink.Discovery.Advertiser

/-!
# The replies of the advertiser

Seen from outside, the advertiser is a board with an advertisement on it: its owner posts
one and announces others, and each authentic query takes the next sequence number and a
copy of what is on the board.  Whatever comes in between, a run of the advertiser has one
order of these events, that of the sections which the mutex guards, and what goes out is
what the board replies in this order, less what is lost on the way
(`Advertiser.linearizable`).

So the replies of one life of the advertiser count up from the number it was started with,
and each is read, by whoever shows the secret and the nonce of the query, as an
advertisement the owner has made (`Advertiser.replies_numbered`).

## Main definitions

* `Board`, `Entry` — the advertisement on the board, and what happens to it.
* `Advertiser.log` — the order of what happens in a run.
* `Answered` — a datagram answers a query, and carries a number.
-/

namespace YunLink.Discovery

open Reactive

/-! ### The board -/

/-- What happens to the board. -/
inductive Entry
  | post (advertisement : DiscoveryAdvertisement) (sharedSecret : Text) (now : UInt64)
  | announce (advertisement : DiscoveryAdvertisement)
  | serve (remote : Remote) (request : Bytes)

namespace Entry

/-- The advertisement put up, if it is one that replaces another. -/
def announced : Entry → Option DiscoveryAdvertisement
  | .announce advertisement => some advertisement
  | _ => none

/-- What the owner of the board does. -/
def owners : Entry → Option Entry
  | .serve _ _ => none
  | entry => some entry

/-- The datagram served. -/
def served : Entry → Option (Remote × Bytes)
  | .serve remote request => some (remote, request)
  | _ => none

end Entry

/-- An advertisement and the secret that queries must know. -/
structure Board where
  advertisement : DiscoveryAdvertisement := {}
  sharedSecret : Text := []

/-- The datagram that answers a query, if the advertisement goes into one. -/
def replyTo (sharedSecret : Text) (remote : Remote) (query : DiscoveryQuery)
    (advertisement : DiscoveryAdvertisement) : List (Remote × Bytes) :=
  let reply := encodeDiscoveryReply query advertisement sharedSecret
  if reply.isEmpty then [] else [(remote, reply)]

/-- What happens to the board, all at once, and the replies. -/
def Board.step (board : Board) : Entry → Board × List (Remote × Bytes)
  | .post advertisement sharedSecret now =>
      ({ advertisement := { advertisement with
          startedAtMs := if advertisement.startedAtMs == 0 then now else advertisement.startedAtMs }
         sharedSecret }, [])
  | .announce advertisement =>
      ({ board with advertisement := Advertiser.replace board.advertisement advertisement }, [])
  | .serve remote request =>
      match decodeDiscoveryQuery request board.sharedSecret with
      | none => (board, [])
      | some query =>
          let advertisement := Advertiser.next board.advertisement
          ({ board with advertisement }, replyTo board.sharedSecret remote query advertisement)

namespace Action

/-- The advertisement that the caller sets. -/
def announced : Action → Option DiscoveryAdvertisement
  | .setAdvertisement advertisement => some advertisement
  | _ => none

/-- What the caller means to do to the board. -/
def owners : Action → Option Entry
  | .start _ advertisement sharedSecret _ now _ => some (.post advertisement sharedSecret now)
  | .setAdvertisement advertisement => some (.announce advertisement)
  | _ => none

/-- The datagram that arrives, as far as it goes into the buffer. -/
def arrived : Action → Option (Remote × Bytes)
  | .datagram remote bytes => some (remote, bytes.take Advertiser.bufferSize)
  | _ => none

end Action

/-- The datagram that goes out. -/
def Output.sent? : Output → Option (Remote × Bytes)
  | .sent remote bytes => some (remote, bytes)
  | _ => none

namespace Advertiser

/-- The board that the advertiser stands for. -/
def board (impl : Advertiser) : Board := ⟨impl.advertisement, impl.sharedSecret⟩

/-- What an action does to the board. -/
def entry (impl : Advertiser) : Action → List Entry
  | .start bindPort advertisement sharedSecret _ now _ =>
      match impl.thread with
      | .absent =>
          if impl.running || bindPort == 0 || !validAdvertisement advertisement then []
          else [.post advertisement sharedSecret now]
      | _ => []
  | .setAdvertisement advertisement => [.announce advertisement]
  | .count =>
      match impl.thread with
      | .received remote request _ => [.serve remote request]
      | _ => []
  | _ => []

/-- The order of what happens to the board in a run. -/
def log (impl : Advertiser) (actions : List Action) : List Entry := logs step entry impl actions

/-- The datagrams that go out in a run. -/
def sent (impl : Advertiser) (actions : List Action) : List (Remote × Bytes) :=
  (outputs step impl actions).filterMap Output.sent?

/-- The reply that the thread has made up and not sent. -/
def owed (impl : Advertiser) : List (Remote × Bytes) :=
  match impl.thread with
  | .replying remote query advertisement => replyTo impl.sharedSecret remote query advertisement
  | _ => []

/-- The query that the thread has received and not counted. -/
def waiting (impl : Advertiser) : List (Remote × Bytes) :=
  match impl.thread with
  | .received remote request _ => [(remote, request)]
  | _ => []

/-- The query of the thread is what the datagram decodes to. -/
def Decoded (impl : Advertiser) : Prop :=
  ∀ remote request query, impl.thread = .received remote request query →
    decodeDiscoveryQuery request impl.sharedSecret = some query

/-! ### One action -/

@[simp] theorem filterMap_sent?_emit (impl : Advertiser)
    (events : List DiscoveryAdvertiserEvent) :
    (impl.emit events).filterMap Output.sent? = [] := by
  unfold emit
  split
  · rw [List.filterMap_map]
    exact List.filterMap_eq_nil_iff.mpr fun event _ => rfl
  · rfl

@[simp] theorem board_refreshMulticast (impl : Advertiser) (network : Network) :
    (impl.refreshMulticast network).1.board = impl.board := rfl

@[simp] theorem thread_refreshMulticast (impl : Advertiser) (network : Network) :
    (impl.refreshMulticast network).1.thread = impl.thread := rfl

@[simp] theorem filterMap_sent?_refreshMulticast (impl : Advertiser) (network : Network) :
    (impl.refreshMulticast network).2.filterMap Output.sent? = [] := filterMap_sent?_emit _ _

/-- What is sent of a reply is what was owed. -/
theorem filterMap_sent?_sendReply (impl : Advertiser) (remote : Remote) (query : DiscoveryQuery)
    (advertisement : DiscoveryAdvertisement) (error : Bool) :
    ((impl.sendReply remote query advertisement error).filterMap Output.sent?).Sublist
      (replyTo impl.sharedSecret remote query advertisement) := by
  unfold sendReply replyTo
  dsimp only
  split
  · rw [filterMap_sent?_emit]
  · split
    · rw [filterMap_sent?_emit]
      exact List.nil_sublist _
    · simp [Output.sent?]

/-- What `start` does, when it gets as far as the socket. -/
theorem start_cases (impl : Advertiser) (bindPort : UInt16)
    (advertisement : DiscoveryAdvertisement) (sharedSecret : Text) (eventHandler : Bool)
    (now : UInt64) (socketError : Bool) :
    ((impl.running || bindPort == 0 || !validAdvertisement advertisement) = true ∧
      impl.start bindPort advertisement sharedSecret eventHandler now socketError =
        (impl, .invalidArgument)) ∨
    ((impl.running || bindPort == 0 || !validAdvertisement advertisement) = false ∧
      (impl.start bindPort advertisement sharedSecret eventHandler now socketError).1.board =
        (impl.board.step (.post advertisement sharedSecret now)).1 ∧
      ((impl.start bindPort advertisement sharedSecret eventHandler now socketError).1.thread =
          impl.thread ∨
        (impl.start bindPort advertisement sharedSecret eventHandler now socketError).1.thread =
          .starting)) := by
  unfold start
  split
  · next hrefused => exact Or.inl ⟨hrefused, rfl⟩
  · next hpassed =>
    refine Or.inr ⟨Bool.eq_false_iff.mpr hpassed, ?_⟩
    cases socketError with
    | false => exact ⟨rfl, Or.inr rfl⟩
    | true => exact ⟨rfl, Or.inl rfl⟩

/-- The thread has a query in hand. -/
def Busy : Thread → Prop
  | .received _ _ _ => True
  | .replying _ _ _ => True
  | _ => False

/-- What an action comes to, as far as replies go. -/
inductive Move (impl : Advertiser) (action : Action) (impl' : Advertiser)
    (sent : List (Remote × Bytes)) : Prop
  /-- The owner may do something to the board, and the thread has no query or the one it had. -/
  | quiet (hboard : impl'.board = after Board.step impl.board (impl.entry action))
      (hserved : (impl.entry action).filterMap Entry.served = []) (hsent : sent = [])
      (hthread : ¬ Busy impl'.thread ∨
        impl'.thread = impl.thread ∧ impl'.sharedSecret = impl.sharedSecret)
  | received (remote : Remote) (bytes : Bytes) (query : DiscoveryQuery)
      (haction : action = .datagram remote bytes) (hboard : impl'.board = impl.board)
      (hquery : decodeDiscoveryQuery (bytes.take bufferSize) impl.sharedSecret = some query)
      (hthread : impl'.thread = .received remote (bytes.take bufferSize) query) (hsent : sent = [])
  | counted (remote : Remote) (request : Bytes) (query : DiscoveryQuery)
      (hcount : action = .count) (hreceived : impl.thread = .received remote request query)
      (hboard : impl'.board = ⟨next impl.advertisement, impl.sharedSecret⟩)
      (hthread : impl'.thread = .replying remote query (next impl.advertisement))
      (hsent : sent = [])
  | replied (remote : Remote) (query : DiscoveryQuery) (advertisement : DiscoveryAdvertisement)
      (hentry : impl.entry action = [])
      (hreplying : impl.thread = .replying remote query advertisement)
      (hboard : impl'.board = impl.board) (hthread : impl'.thread = .looping)
      (hsent : sent.Sublist (replyTo impl.sharedSecret remote query advertisement))

/-- An action that leaves the board alone, and the thread without a query. -/
theorem Move.idle {impl impl' : Advertiser} {action : Action} {outputs : List Output}
    (hentry : impl.entry action = []) (hboard : impl'.board = impl.board)
    (hsent : outputs.filterMap Output.sent? = []) (hthread : ¬ Busy impl'.thread) :
    impl.Move action impl' (outputs.filterMap Output.sent?) :=
  .quiet (by rw [hentry]; exact hboard) (by rw [hentry]; rfl) hsent (Or.inl hthread)

/-- An action that the thread is not at. -/
theorem Move.stay {impl : Advertiser} {action : Action} (hentry : impl.entry action = []) :
    impl.Move action impl [] :=
  .quiet (by rw [hentry]; rfl) (by rw [hentry]; rfl) rfl (Or.inr ⟨rfl, rfl⟩)

theorem move_start (impl : Advertiser) (bindPort : UInt16)
    (advertisement : DiscoveryAdvertisement) (sharedSecret : Text) (eventHandler : Bool)
    (now : UInt64) (socketError : Bool) :
    let action : Action :=
      .start bindPort advertisement sharedSecret eventHandler now socketError
    impl.Move action (impl.step action).1 ((impl.step action).2.filterMap Output.sent?) := by
  intro action
  cases hthread : impl.thread with
  | absent =>
    have hentry : impl.entry action =
        if impl.running || bindPort == 0 || !validAdvertisement advertisement then []
        else [.post advertisement sharedSecret now] := by simp [action, entry, hthread]
    simp only [action, step, hthread]
    rcases impl.start_cases bindPort advertisement sharedSecret eventHandler now socketError with
      ⟨hrefused, hstart⟩ | ⟨hpassed, hboard, hstarted⟩
    · rw [hstart]
      rw [if_pos hrefused] at hentry
      exact .stay hentry
    · rw [hpassed, if_neg Bool.false_ne_true] at hentry
      refine .quiet (by rw [hentry]; exact hboard) (by rw [hentry]; rfl) rfl (Or.inl ?_)
      rw [hthread] at hstarted
      rcases hstarted with hstarted | hstarted
      · rw [hstarted]
        exact id
      · rw [hstarted]
        exact id
  | _ =>
    have hsent : (if impl.running then [Output.started .invalidArgument] else []).filterMap
        Output.sent? = [] := by split <;> rfl
    simp only [action, step, hthread, hsent]
    exact .stay (by simp [entry, hthread])

theorem move_datagram (impl : Advertiser) (remote : Remote) (bytes : Bytes) :
    impl.Move (.datagram remote bytes) (impl.step (.datagram remote bytes)).1
      ((impl.step (.datagram remote bytes)).2.filterMap Output.sent?) := by
  cases hthread : impl.thread with
  | receiving =>
    simp only [step, hthread, receive]
    split
    · exact .idle rfl rfl (filterMap_sent?_emit _ _) id
    · next query hquery =>
      exact .received remote bytes query rfl rfl hquery rfl (filterMap_sent?_emit _ _)
  | _ =>
    simp only [step, hthread]
    exact .stay rfl

/-- **What each action comes to.** -/
theorem move_step (impl : Advertiser) (action : Action) :
    impl.Move action (impl.step action).1 ((impl.step action).2.filterMap Output.sent?) := by
  cases action with
  | start => exact impl.move_start ..
  | datagram remote bytes => exact impl.move_datagram remote bytes
  | setAdvertisement advertisement => exact .quiet rfl rfl rfl (Or.inr ⟨rfl, rfl⟩)
  | count =>
    cases hthread : impl.thread with
    | received remote request query =>
      simp only [step, hthread]
      exact .counted remote request query rfl hthread rfl rfl rfl
    | _ =>
      simp only [step, hthread]
      exact .stay (by simp [entry, hthread])
  | send error =>
    cases hthread : impl.thread with
    | replying remote query advertisement =>
      simp only [step, hthread]
      exact .replied remote query advertisement rfl hthread rfl rfl
        (impl.filterMap_sent?_sendReply remote query advertisement error)
    | _ =>
      simp only [step, hthread]
      exact .stay rfl
  | turn refresh =>
    cases hthread : impl.thread with
    | looping =>
      simp only [step, hthread]
      split
      · exact .idle rfl rfl rfl id
      · cases refresh with
        | none => exact .idle rfl rfl rfl id
        | some network => exact .idle rfl rfl (filterMap_sent?_emit _ _) id
    | _ =>
      simp only [step, hthread]
      exact .stay rfl
  | firstRefresh network =>
    cases hthread : impl.thread with
    | starting =>
      simp only [step, hthread]
      exact .idle rfl rfl (filterMap_sent?_emit _ _) id
    | _ =>
      simp only [step, hthread]
      exact .stay rfl
  | wouldBlock =>
    cases hthread : impl.thread with
    | receiving =>
      simp only [step, hthread]
      exact .idle rfl rfl rfl id
    | _ =>
      simp only [step, hthread]
      exact .stay rfl
  | receiveError remote =>
    cases hthread : impl.thread with
    | receiving =>
      simp only [step, hthread]
      refine .idle rfl rfl ?_ id
      split
      · exact filterMap_sent?_emit _ _
      · rfl
    | _ =>
      simp only [step, hthread]
      exact .stay rfl
  | stop =>
    cases hthread : impl.thread with
    | absent =>
      simp only [step, hthread]
      exact .idle rfl rfl rfl id
    | _ =>
      simp only [step, hthread]
      exact .quiet rfl rfl rfl (Or.inr ⟨hthread ▸ rfl, rfl⟩)
  | stopped =>
    cases hthread : impl.thread with
    | finished =>
      simp only [step, hthread]
      exact .idle rfl rfl rfl id
    | _ =>
      simp only [step, hthread]
      exact .stay rfl

/-- **The board follows each action.** -/
theorem board_step (impl : Advertiser) (action : Action) (h : impl.Decoded) :
    (impl.step action).1.board = after Board.step impl.board (impl.entry action) := by
  cases impl.move_step action with
  | quiet hboard => exact hboard
  | received remote bytes query haction hboard =>
    rw [haction] at hboard ⊢
    exact hboard
  | counted remote request query hcount hreceived hboard =>
    have hquery : decodeDiscoveryQuery request impl.board.sharedSecret = some query :=
      h remote request query hreceived
    rw [hboard, hcount, entry]
    simp only [hreceived, after_cons, after_nil, Board.step, hquery]
    rfl
  | replied remote query advertisement hentry hreplying hboard =>
    rw [hboard, hentry]
    rfl

/-- A query stays what its datagram decodes to. -/
theorem decoded_step (impl : Advertiser) (action : Action) (h : impl.Decoded) :
    (impl.step action).1.Decoded := by
  intro remote request query hreceived
  cases impl.move_step action with
  | quiet hboard hserved hsent hthread =>
    rcases hthread with hidle | ⟨hsame, hsecret⟩
    · rw [hreceived] at hidle
      exact absurd trivial hidle
    · rw [hsecret]
      exact h remote request query (hsame ▸ hreceived)
  | received remote' bytes query' haction hboard hquery hthread =>
    rw [hthread] at hreceived
    cases hreceived
    have hsecret : (impl.step action).1.sharedSecret = impl.sharedSecret :=
      congrArg Board.sharedSecret hboard
    rw [hsecret]
    exact hquery
  | counted remote' request' query' hcount hreceived' hboard hthread =>
    rw [hthread] at hreceived
    cases hreceived
  | replied remote' query' advertisement hentry hreplying hboard hthread =>
    rw [hthread] at hreceived
    cases hreceived

/-- What is owed of a thread without a query is nothing. -/
theorem owed_of_not_busy {impl : Advertiser} (h : ¬ Busy impl.thread) :
    impl.owed = [] ∧ impl.waiting = [] := by
  unfold owed waiting
  cases hthread : impl.thread with
  | received =>
    rw [hthread] at h
    exact absurd trivial h
  | replying =>
    rw [hthread] at h
    exact absurd trivial h
  | _ => exact ⟨rfl, rfl⟩

theorem owed_congr {impl impl' : Advertiser} (hthread : impl'.thread = impl.thread)
    (hsecret : impl'.sharedSecret = impl.sharedSecret) : impl'.owed = impl.owed := by
  unfold owed
  rw [hthread, hsecret]

/-- **A reply goes out after the board has made it.** -/
theorem owed_step (impl : Advertiser) (action : Action) (h : impl.Decoded) :
    ((impl.step action).2.filterMap Output.sent? ++ (impl.step action).1.owed).Sublist
      (impl.owed ++ outputs Board.step impl.board (impl.entry action)) := by
  cases impl.move_step action with
  | quiet hboard hserved hsent hthread =>
    rw [hsent, List.nil_append]
    rcases hthread with hidle | ⟨hsame, hsecret⟩
    · rw [(owed_of_not_busy hidle).1]
      exact List.nil_sublist _
    · rw [owed_congr hsame hsecret]
      exact List.sublist_append_left _ _
  | received remote bytes query haction hboard hquery hthread hsent =>
    have howed : (impl.step action).1.owed = [] := by rw [owed, hthread]
    rw [hsent, howed]
    exact List.nil_sublist _
  | counted remote request query hcount hreceived hboard hthread hsent =>
    have hquery : decodeDiscoveryQuery request impl.board.sharedSecret = some query :=
      h remote request query hreceived
    have hsecret : (impl.step action).1.sharedSecret = impl.sharedSecret :=
      congrArg Board.sharedSecret hboard
    have howed : (impl.step action).1.owed =
        replyTo impl.sharedSecret remote query (next impl.advertisement) := by
      rw [owed, hthread, hsecret]
    have hentry : impl.entry action = [.serve remote request] := by
      rw [hcount, entry, hreceived]
    rw [hsent, howed, hentry, outputs_cons, outputs_nil, List.append_nil, Board.step]
    simp only [hquery]
    exact List.sublist_append_right _ _
  | replied remote query advertisement hentry hreplying hboard hthread hsent =>
    have howed : (impl.step action).1.owed = [] := by rw [owed, hthread]
    have hreply : impl.owed = replyTo impl.sharedSecret remote query advertisement := by
      rw [owed, hreplying]
    rw [howed, hentry, hreply, List.append_nil, outputs_nil, List.append_nil]
    exact hsent

/-- **A query is counted after its datagram has arrived.** -/
theorem waiting_step (impl : Advertiser) (action : Action) :
    ((impl.entry action).filterMap Entry.served ++ (impl.step action).1.waiting).Sublist
      (impl.waiting ++ (action.arrived.filter fun arrived =>
        (decodeDiscoveryQuery arrived.2 impl.sharedSecret).isSome).toList) := by
  cases impl.move_step action with
  | quiet hboard hserved hsent hthread =>
    rw [hserved, List.nil_append]
    rcases hthread with hidle | ⟨hsame, -⟩
    · rw [(owed_of_not_busy hidle).2]
      exact List.nil_sublist _
    · have hwaiting : (impl.step action).1.waiting = impl.waiting := by rw [waiting, hsame, waiting]
      rw [hwaiting]
      exact List.sublist_append_left _ _
  | received remote bytes query haction hboard hquery hthread =>
    subst haction
    have hwaiting : (impl.step (.datagram remote bytes)).1.waiting =
        [(remote, bytes.take bufferSize)] := by rw [waiting, hthread]
    rw [hwaiting]
    simp [entry, Action.arrived, hquery]
  | counted remote request query hcount hreceived hboard hthread =>
    subst hcount
    have hwaiting : (impl.step .count).1.waiting = [] := by rw [waiting, hthread]
    rw [hwaiting]
    simp [entry, waiting, hreceived, Entry.served, Action.arrived]
  | replied remote query advertisement hentry hreplying hboard hthread =>
    have hwaiting : (impl.step action).1.waiting = [] := by rw [waiting, hthread]
    rw [hwaiting, hentry]
    exact List.nil_sublist _

/-! ### The order of a run -/

theorem decoded_init : Decoded {} := fun _ _ _ h => nomatch h

/-- **The board follows a run.** -/
theorem board_after {impl : Advertiser} (h : impl.Decoded) (actions : List Action) :
    (after step impl actions).board = after Board.step impl.board (impl.log actions) :=
  (simulated decoded_step board_step h actions).1

/-- **What goes out in a run is what the board replies.** -/
theorem sent_sublist {impl : Advertiser} (h : impl.Decoded) (actions : List Action) :
    (impl.sent actions).Sublist
      (impl.owed ++ outputs Board.step impl.board (impl.log actions)) := by
  have hcarry := logs_sublist decoded_step owed_step h actions
  rw [← filterMap_logs Output.sent?, ← (simulated decoded_step board_step h actions).2] at hcarry
  exact (List.sublist_append_left _ _).trans hcarry

/-- **The queries of a run are datagrams that arrived.** -/
theorem served_sublist {impl : Advertiser} (h : impl.Decoded) (actions : List Action) :
    ((impl.log actions).filterMap Entry.served).Sublist
      (impl.waiting ++ actions.filterMap Action.arrived) := by
  rw [log, filterMap_logs, ← filterMap_inputs step Action.arrived impl]
  refine (List.sublist_append_left _ _).trans (logs_sublist decoded_step (fun s a _ => ?_) h actions)
  refine (s.waiting_step a).trans (List.Sublist.append_left ?_ _)
  cases a.arrived with
  | none => exact List.nil_sublist _
  | some arrived =>
    rw [Option.filter_some]
    split
    · exact List.Sublist.refl _
    · exact List.nil_sublist _

/-- An announcement is made at once. -/
theorem announced_step (impl : Advertiser) (action : Action) :
    (impl.entry action).filterMap Entry.announced = action.announced.toList := by
  cases action with
  | start =>
    cases hthread : impl.thread with
    | absent =>
      simp only [entry, hthread]
      split <;> rfl
    | _ => simp [entry, hthread, Action.announced]
  | count => cases hthread : impl.thread <;> simp [entry, hthread, Entry.announced, Action.announced]
  | _ => rfl

theorem owners_step (impl : Advertiser) (action : Action) :
    ((impl.entry action).filterMap Entry.owners).Sublist action.owners.toList := by
  cases action with
  | start =>
    cases hthread : impl.thread with
    | absent =>
      simp only [entry, hthread]
      split
      · exact List.nil_sublist _
      · exact List.Sublist.refl _
    | _ => simp [entry, hthread]
  | count => cases hthread : impl.thread <;> simp [entry, hthread, Entry.owners, Action.owners]
  | _ => simp [entry, Action.owners, Entry.owners]

theorem announced_log (impl : Advertiser) (actions : List Action) :
    (impl.log actions).filterMap Entry.announced = actions.filterMap Action.announced := by
  rw [log, filterMap_logs, ← filterMap_inputs step Action.announced impl]
  congr 1
  funext impl action
  exact impl.announced_step action

/-- What the owner does, in the order in which the calls are made. -/
theorem owners_log (impl : Advertiser) (actions : List Action) :
    ((impl.log actions).filterMap Entry.owners).Sublist (actions.filterMap Action.owners) := by
  rw [log, filterMap_logs, ← filterMap_inputs step Action.owners impl]
  exact logs_sublist_logs owners_step impl actions

/-- **The advertiser is linearizable.**  In any run, a board to which everything happens at
once, in the order of the guarded sections, holds the same advertisement, and what goes out
are replies of the board, in their order.  The calls of the owner keep the order in which
they are made, no announcement is left out, and the queries are datagrams that arrived, each
at most once and in the order of their arrival. -/
theorem linearizable (actions : List Action) :
    (after step {} actions).board = after Board.step {} (log {} actions) ∧
      (sent {} actions).Sublist (outputs Board.step {} (log {} actions)) ∧
      (log {} actions).filterMap Entry.announced = actions.filterMap Action.announced ∧
      ((log {} actions).filterMap Entry.owners).Sublist (actions.filterMap Action.owners) ∧
      ((log {} actions).filterMap Entry.served).Sublist (actions.filterMap Action.arrived) :=
  ⟨board_after decoded_init actions, sent_sublist decoded_init actions, announced_log {} actions,
    owners_log {} actions, served_sublist decoded_init actions⟩

end Advertiser

/-! ### The replies of a board -/

/-- A format that is read is one of the three. -/
theorem readFormat_eq_some {magicV4 magicV3 magicV2 input rest : Bytes} {version : UInt8}
    (h : readFormat magicV4 magicV3 magicV2 input = some (version, rest)) :
    version = 2 ∨ version = 3 ∨ version = 4 := by
  rw [readFormat, orElse_apply, orElse_apply] at h
  have announced : ∀ {expected : Bytes} {value : UInt8},
      (do magic expected; pure value : PayloadReader UInt8) input = some (version, rest) →
      version = value := by
    intro expected value hread
    obtain ⟨_, _, -, hpure⟩ := Codec.Reader.bind_eq_some.mp hread
    exact (Prod.mk.inj (Option.some.inj hpure)).1.symm
  rcases (Option.orElse_eq_some _ _ _).mp h with h | ⟨-, h⟩
  · exact Or.inr (Or.inr (announced h))
  · rcases (Option.orElse_eq_some _ _ _).mp h with h | ⟨-, h⟩
    · exact Or.inr (Or.inl (announced h))
    · exact Or.inl (announced h)

/-- The format of a query that is decoded. -/
theorem formatVersion_of_decodeDiscoveryQuery {bytes : Bytes} {secret : Text}
    {query : DiscoveryQuery} (h : decodeDiscoveryQuery bytes secret = some query) :
    query.formatVersion = 2 ∨ query.formatVersion = 3 ∨ query.formatVersion = 4 := by
  unfold decodeDiscoveryQuery at h
  split at h
  · cases h
  · obtain ⟨parsed, hparsed, hchecked⟩ := Option.bind_eq_some_iff.mp h
    split at hchecked
    · cases hchecked
    · cases hchecked
      obtain ⟨version, rest, hversion, hmore⟩ :=
        Codec.Reader.bind_eq_some.mp (eq_some_of_decodeAll hparsed)
      obtain ⟨nonce, rest, -, hmore⟩ := Codec.Reader.bind_eq_some.mp hmore
      obtain ⟨window, rest, -, hdone⟩ := Codec.Reader.bind_eq_some.mp hmore
      have hquery := (Prod.mk.inj (Option.some.inj hdone)).1
      rw [← hquery]
      exact readFormat_eq_some hversion

/-- What its owner puts into an advertisement. -/
def DiscoveryAdvertisement.content (advertisement : DiscoveryAdvertisement) :
    DiscoveryAdvertisement :=
  { advertisement with startedAtMs := 0, sequence := 0 }

/-- A datagram answers a query that arrived: it is read, with the nonce of the query, as what
the format carries of an advertisement that its owner has made, under a number. -/
def Answered (sharedSecret : Text) (first : UInt64) (made : List DiscoveryAdvertisement)
    (arrived : List (Remote × Bytes)) (reply : Remote × Bytes) (number : ℕ) : Prop :=
  ∃ (request : Bytes) (query : DiscoveryQuery) (advertisement : DiscoveryAdvertisement),
    (reply.1, request) ∈ arrived ∧
    decodeDiscoveryQuery request sharedSecret = some query ∧
    advertisement.sequence = first + UInt64.ofNat number ∧
    advertisement.content ∈ made.map DiscoveryAdvertisement.content ∧
    decodeDiscoveryReply reply.2 sharedSecret query.nonce =
      some (advertisement.project query.formatVersion)

/-- A datagram that is an authentic query. -/
def authentic (sharedSecret : Text) (arrived : Remote × Bytes) : Bool :=
  (decodeDiscoveryQuery arrived.2 sharedSecret).isSome

/-- The reply to a query is read as what it was made of. -/
theorem answered_of_mem_replyTo {sharedSecret : Text} {first : UInt64}
    {made : List DiscoveryAdvertisement} {arrived : List (Remote × Bytes)} {remote : Remote}
    {request : Bytes} {query : DiscoveryQuery} {advertisement : DiscoveryAdvertisement}
    {number : ℕ} (harrived : (remote, request) ∈ arrived)
    (hquery : decodeDiscoveryQuery request sharedSecret = some query)
    (hnumber : advertisement.sequence = first + UInt64.ofNat number)
    (hmade : advertisement.content ∈ made.map DiscoveryAdvertisement.content) :
    ∀ reply ∈ replyTo sharedSecret remote query advertisement,
      Answered sharedSecret first made arrived reply number := by
  intro reply hreply
  unfold replyTo at hreply
  dsimp only at hreply
  split at hreply
  · cases hreply
  · next hwritten =>
    rw [List.mem_singleton.mp hreply]
    refine ⟨request, query, advertisement, harrived, hquery, hnumber, hmade, ?_⟩
    refine decodeDiscoveryReply_encodeDiscoveryReply
      (formatVersion_of_decodeDiscoveryQuery hquery) fun hnil => ?_
    rw [hnil] at hwritten
    exact hwritten rfl

theorem length_replyTo_le (sharedSecret : Text) (remote : Remote) (query : DiscoveryQuery)
    (advertisement : DiscoveryAdvertisement) :
    (replyTo sharedSecret remote query advertisement).length ≤ 1 := by
  unfold replyTo
  dsimp only
  split
  · exact Nat.zero_le 1
  · exact Nat.le_refl 1

theorem content_replace (held advertisement : DiscoveryAdvertisement) :
    (Advertiser.replace held advertisement).content = held.content ∨
      (Advertiser.replace held advertisement).content = advertisement.content := by
  unfold Advertiser.replace
  split
  · exact Or.inl rfl
  · exact Or.inr rfl

theorem sequence_replace (held advertisement : DiscoveryAdvertisement) :
    (Advertiser.replace held advertisement).sequence = held.sequence := by
  unfold Advertiser.replace
  split <;> rfl

/-- **The replies of a board count up.** -/
theorem board_answered {sharedSecret : Text} {first : UInt64}
    {made : List DiscoveryAdvertisement} {arrived : List (Remote × Bytes)} {log : List Entry}
    {board : Board} (hsecret : board.sharedSecret = sharedSecret)
    (hmade : board.advertisement.content ∈ made.map DiscoveryAdvertisement.content)
    (hposts : ∀ advertisement secret now, Entry.post advertisement secret now ∉ log)
    (hannounced : ∀ advertisement ∈ log.filterMap Entry.announced, advertisement ∈ made)
    (hserved : ∀ request ∈ log.filterMap Entry.served, request ∈ arrived) {count : ℕ}
    (hcount : board.advertisement.sequence = first + UInt64.ofNat count) :
    List.SublistForall₂ (Answered sharedSecret first made arrived)
      (outputs Board.step board log)
      (List.range' (count + 1) ((log.filterMap Entry.served).countP (authentic sharedSecret))) := by
  induction log generalizing board count with
  | nil => exact .nil
  | cons entry rest ih =>
    have hposts' : ∀ advertisement secret now, Entry.post advertisement secret now ∉ rest :=
      fun advertisement secret now hmem =>
        hposts advertisement secret now (List.mem_cons_of_mem entry hmem)
    cases entry with
    | post advertisement secret now =>
      exact absurd List.mem_cons_self (hposts advertisement secret now)
    | announce advertisement =>
      have hmade' : ∀ made' ∈ advertisement :: rest.filterMap Entry.announced, made' ∈ made :=
        hannounced
      obtain ⟨hhere, hlater⟩ := List.forall_mem_cons.mp hmade'
      refine @ih (board.step (.announce advertisement)).1 hsecret ?_ hposts' hlater hserved _ ?_
      · rcases content_replace board.advertisement advertisement with hcontent | hcontent
        · exact hcontent ▸ hmade
        · exact hcontent ▸ List.mem_map_of_mem hhere
      · exact (sequence_replace board.advertisement advertisement).trans hcount
    | serve remote request =>
      have hserved' : ∀ request' ∈ (remote, request) :: rest.filterMap Entry.served,
          request' ∈ arrived := hserved
      obtain ⟨hhere, hlater⟩ := List.forall_mem_cons.mp hserved'
      have hcounted : (Entry.serve remote request :: rest).filterMap Entry.served =
          (remote, request) :: rest.filterMap Entry.served := rfl
      rw [outputs_cons, Board.step, hsecret, hcounted]
      cases hquery : decodeDiscoveryQuery request sharedSecret with
      | none =>
        have hskip : authentic sharedSecret (remote, request) = false := by simp [authentic, hquery]
        rw [List.countP_cons_of_neg (by simp [hskip])]
        exact ih hsecret hmade hposts' hannounced hlater hcount
      | some query =>
        have htaken : authentic sharedSecret (remote, request) = true := by
          simp [authentic, hquery]
        have hnumber : (Advertiser.next board.advertisement).sequence =
            first + UInt64.ofNat (count + 1) := by
          show board.advertisement.sequence + 1 = _
          rw [hcount, UInt64.ofNat_add, ← UInt64.add_assoc]
          rfl
        have hreply : ∀ reply ∈ replyTo sharedSecret remote query
            (Advertiser.next board.advertisement),
            Answered sharedSecret first made arrived reply (count + 1) :=
          answered_of_mem_replyTo hhere hquery hnumber hmade
        have hrest := @ih ⟨Advertiser.next board.advertisement, sharedSecret⟩ rfl hmade hposts'
          hannounced hlater _ hnumber
        rw [List.countP_cons_of_pos htaken, List.range'_succ]
        -- At most one datagram goes out under this number.
        have hone := length_replyTo_le sharedSecret remote query
          (Advertiser.next board.advertisement)
        dsimp only
        cases hsent : replyTo sharedSecret remote query (Advertiser.next board.advertisement) with
        | nil => exact .cons_right hrest
        | cons reply more =>
          rw [hsent] at hone hreply
          have hmore : more = [] := List.length_eq_zero_iff.mp (by simpa using hone)
          rw [hmore]
          exact .cons (hreply reply List.mem_cons_self) hrest

namespace Advertiser

/-! ### The replies of a life -/

/-- The thread is there until `stop` has joined it. -/
theorem thread_step {impl : Advertiser} (h : impl.thread ≠ .absent) {action : Action}
    (haction : action ≠ .stopped) : (impl.step action).1.thread ≠ .absent := by
  cases impl.move_step action with
  | received remote bytes query _ _ _ hthread =>
    rw [hthread]
    exact nofun
  | counted remote request query _ _ _ hthread =>
    rw [hthread]
    exact nofun
  | replied remote query advertisement _ _ _ hthread =>
    rw [hthread]
    exact nofun
  | quiet =>
    cases action with
    | stopped => exact absurd rfl haction
    | turn refresh =>
      cases hthread : impl.thread with
      | looping =>
        simp only [step, hthread]
        split
        · exact nofun
        · cases refresh <;> exact nofun
      | absent => exact absurd hthread h
      | _ => simp [step, hthread]
    | datagram remote bytes =>
      cases hthread : impl.thread with
      | receiving =>
        simp only [step, hthread, receive]
        split <;> exact nofun
      | absent => exact absurd hthread h
      | _ => simp [step, hthread]
    | _ => cases hthread : impl.thread <;> simp_all [step, setAdvertisement]

/-- Nothing is posted before the thread is joined. -/
theorem post_notMem_log {impl : Advertiser} (h : impl.thread ≠ .absent) {actions : List Action}
    (hlife : ∀ action ∈ actions, action ≠ .stopped) (advertisement : DiscoveryAdvertisement)
    (secret : Text) (now : UInt64) : Entry.post advertisement secret now ∉ impl.log actions := by
  induction actions generalizing impl with
  | nil => exact List.not_mem_nil
  | cons action rest ih =>
    obtain ⟨hhere, hlater⟩ := List.forall_mem_cons.mp hlife
    rw [log, logs_cons, List.mem_append, not_or]
    refine ⟨fun hmem => ?_, ih (thread_step h hhere) hlater⟩
    cases action with
    | start => cases hthread : impl.thread <;> simp_all [entry]
    | count => cases hthread : impl.thread <;> simp_all [entry]
    | _ => simp [entry] at hmem

/-- What leaves out of a list that is matched is matched. -/
theorem sublistForall₂_of_sublist {α β : Type} {R : α → β → Prop} {l l' : List α} {m : List β}
    (hsub : l.Sublist l') (h : List.SublistForall₂ R l' m) : List.SublistForall₂ R l m := by
  induction h generalizing l with
  | nil =>
    rw [List.sublist_nil.mp hsub]
    exact .nil
  | cons hr _ ih =>
    cases hsub with
    | cons _ hsub => exact .cons_right (ih hsub)
    | cons_cons _ hsub => exact .cons hr (ih hsub)
  | cons_right _ ih => exact .cons_right (ih hsub)

theorem sublistForall₂_range' {α : Type} {R : α → ℕ → Prop} {l : List α} {first m n : ℕ}
    (h : List.SublistForall₂ R l (List.range' first m)) (hle : m ≤ n) :
    List.SublistForall₂ R l (List.range' first n) := by
  obtain ⟨numbers, hforall, hsub⟩ := List.sublistForall₂_iff.mp h
  exact List.sublistForall₂_iff.mpr
    ⟨numbers, hforall, hsub.trans (List.range'_sublist_right.mpr hle)⟩

/-- What a start that succeeds leaves. -/
theorem start_eq_ok {impl impl' : Advertiser} {bindPort : UInt16}
    {advertisement : DiscoveryAdvertisement} {sharedSecret : Text} {eventHandler : Bool}
    {now : UInt64} {socketError : Bool}
    (h : impl.start bindPort advertisement sharedSecret eventHandler now socketError =
      (impl', .ok)) :
    impl'.board = (impl.board.step (.post advertisement sharedSecret now)).1 ∧
      impl'.thread = .starting := by
  unfold start at h
  split at h
  · cases h
  · cases socketError with
    | true => cases h
    | false =>
      cases h
      exact ⟨rfl, rfl⟩

/-- **The replies count up, and each shows what the owner made.**  From a successful start until
`stop` comes back, whatever the owner and others do and the sockets answer, the datagrams that
go out carry numbers that count up, modulo `2 ^ 64`, from the one of the advertisement started
with, and no more of them than authentic queries have arrived.  Each goes to the sender of a query, and is
read with the secret and the nonce of that query as what its format carries of an advertisement
its owner has made. -/
theorem replies_numbered {impl impl' : Advertiser} {bindPort : UInt16}
    {advertisement : DiscoveryAdvertisement} {sharedSecret : Text} {eventHandler : Bool}
    {now : UInt64} {socketError : Bool}
    (h : impl.start bindPort advertisement sharedSecret eventHandler now socketError =
      (impl', .ok)) {actions : List Action} (hlife : ∀ action ∈ actions, action ≠ .stopped) :
    List.SublistForall₂
      (Answered sharedSecret advertisement.sequence
        (advertisement :: actions.filterMap Action.announced) (actions.filterMap Action.arrived))
      (impl'.sent actions)
      (List.range' 1 ((actions.filterMap Action.arrived).countP (authentic sharedSecret))) := by
  obtain ⟨hboard, hthread⟩ := start_eq_ok h
  have hdecoded : impl'.Decoded := fun _ _ _ hreceived => nomatch hthread.symm.trans hreceived
  have howed : impl'.owed = [] ∧ impl'.waiting = [] :=
    owed_of_not_busy (by rw [hthread]; exact id)
  have hsent := sent_sublist hdecoded actions
  have hserved := served_sublist hdecoded actions
  rw [howed.1, List.nil_append] at hsent
  rw [howed.2, List.nil_append] at hserved
  rw [hboard] at hsent
  have hstart : advertisement.sequence = advertisement.sequence + UInt64.ofNat 0 :=
    (UInt64.add_zero _).symm
  have hcontent : (impl.board.step (.post advertisement sharedSecret now)).1.advertisement.content ∈
      (advertisement :: actions.filterMap Action.announced).map DiscoveryAdvertisement.content :=
    List.mem_cons_self (a := advertisement.content)
  have hposts := post_notMem_log (by rw [hthread]; exact nofun) hlife
  have hannounced : ∀ made ∈ (impl'.log actions).filterMap Entry.announced,
      made ∈ advertisement :: actions.filterMap Action.announced := fun made hmade =>
    List.mem_cons_of_mem advertisement (announced_log impl' actions ▸ hmade)
  have hanswered := board_answered rfl hcontent hposts hannounced
    (fun request hrequest => hserved.subset hrequest) hstart
  exact sublistForall₂_range' (sublistForall₂_of_sublist hsent hanswered) hserved.countP_le

/-- Two queries are received and answered, and the owner posts another advertisement while
the first one is. -/
def sampleExchange : List Action := [
  .firstRefresh ⟨none, fun _ => .joined⟩,
  .turn none,
  .datagram ⟨⟨0x0A000002⟩, 40000⟩ (encodeDiscoveryQuery sampleQuery (ascii "test-secret")),
  .setAdvertisement { sampleAdvertisement with displayName := ascii "alpha" },
  .count,
  .send false,
  .turn none,
  .datagram ⟨⟨0x0A000003⟩, 40001⟩ (encodeDiscoveryQuery sampleQuery (ascii "test-secret")),
  .count,
  .send false]

/-- The two replies of the exchange carry the next two numbers. -/
theorem replies_numbered_sampleExchange :
    let started := start 9697 sampleAdvertisement (ascii "test-secret") true 5 false {}
    (started.1.sent sampleExchange).length = 2 ∧
      List.SublistForall₂
        (Answered (ascii "test-secret") sampleAdvertisement.sequence
          (sampleAdvertisement :: sampleExchange.filterMap Action.announced)
          (sampleExchange.filterMap Action.arrived))
        (started.1.sent sampleExchange)
        (List.range' 1 ((sampleExchange.filterMap Action.arrived).countP
          (authentic (ascii "test-secret")))) := by
  intro started
  have hok : start 9697 sampleAdvertisement (ascii "test-secret") true 5 false {} =
      (started.1, .ok) := Prod.ext rfl (by decide +kernel)
  refine ⟨by decide +kernel, replies_numbered hok ?_⟩
  simp [sampleExchange]

end Advertiser

end YunLink.Discovery
