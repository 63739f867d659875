import HatchSensor.Board.Inbox
import HatchSensor.Number.Single

/-!
# Scripted responses

A test stand answers the calls of the board from a script: for every kind of call, named by a
label, a queue of responses.  A call whose queue is empty gets the usual response.
-/

namespace HatchSensor

/-- A scripted response to a call. -/
inductive Response where
  /-- What the call usually answers. -/
  | usual
  /-- A code; it is the failure of a call that can fail. -/
  | code (code : Int)
  /-- Yes or no. -/
  | flag (value : Bool)
  | text (text : String)
  /-- The blob has gone. -/
  | gone
  /-- The network sets the calendar clock to a time. -/
  | networkTime (seconds : Int)
  /-- The time since the chip woke up. -/
  | uptime (microseconds : Int)
  | climate (temperature humidity pressure : Single)
  /-- The number of the message, the events that follow, and whether they are the last. -/
  | events (id : Option Nat) (events : List ClientEvent) (closes : Bool)
deriving DecidableEq

/-- The failure of a call that can fail.  Any code is one, also zero. -/
def Response.failure? : Response → Option ChipError
  | .code n => some ⟨n⟩
  | _ => none

/-- The answer of a call that answers with a bare code, which is zero unless the script says
otherwise. -/
def Response.bareCode : Response → Int
  | .code n => n
  | _ => 0

/-- Queues of responses and their labels. -/
structure Script where
  /-- The queues, each label once. -/
  queues : List (String × List Response)
deriving DecidableEq

namespace Script

/-- No responses. -/
def empty : Script := ⟨[]⟩

/-- Put responses at the end of the queue of a label. -/
def extend (label : String) (responses : List Response) :
    List (String × List Response) → List (String × List Response)
  | [] => [(label, responses)]
  | (other, queue) :: rest =>
    if other = label then (other, queue ++ responses) :: rest
    else (other, queue) :: extend label responses rest

/-- Put more responses at the ends of the queues. -/
def add (script : Script) (more : List (String × List Response)) : Script :=
  ⟨more.foldl (fun queues entry => extend entry.1 entry.2 queues) script.queues⟩

/-- The first response in the queue of a label, and the queues without it. -/
def shift (label : String) :
    List (String × List Response) → Response × List (String × List Response)
  | [] => (.usual, [])
  | (other, queue) :: rest =>
    if other = label then
      match queue with
      | [] => (.usual, (other, []) :: rest)
      | response :: later => (response, (other, later) :: rest)
    else
      let (response, rest) := shift label rest
      (response, (other, queue) :: rest)

/-- The next response to a call with a label. -/
def next (script : Script) (label : String) : Response × Script :=
  let (response, queues) := shift label script.queues
  (response, ⟨queues⟩)

end Script

end HatchSensor
