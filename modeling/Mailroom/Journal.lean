import Mailroom.Failure

/-!
# Journals

What a run does to the outside, in order.

* `Dispatch`: a message handed to a mailer, with its envelope;
* `Event`: a log record, a dispatch, a call to a server or a printed line;
* `Journal`: the events of a run; `Journal.records`, `Journal.dispatches`, `Journal.calls` and
  `Journal.printed` pick out one kind;
* `Mailer`: what hands a message on, and what it did.
-/

namespace Mailroom

/-- How much attention a log record asks for. -/
inductive Level where
  | debug
  | info
  | warning
  | error
deriving DecidableEq

/-- A log record. Its text is missing if it could not be put together. -/
structure LogRecord where
  level : Level
  text : Option Text
deriving DecidableEq

/-- A message handed to a mailer: the server, what to log in with, and the envelope. -/
structure Dispatch where
  host : Text
  auth : Option Auth
  sender : Text
  recipients : List Text
  message : Octets
deriving DecidableEq

/-- What a run does to the outside. -/
inductive Event where
  | log (record : LogRecord)
  | dispatch (dispatch : Dispatch)
  | call (call : Smtp.Call)
  | print (line : Text)
deriving DecidableEq

/-- The events of a run, in order. -/
abbrev Journal := List Event

namespace Journal

/-- The log records. -/
def records (j : Journal) : List LogRecord :=
  j.filterMap fun
    | .log record => some record
    | _ => none

/-- The messages handed to mailers. -/
def dispatches (j : Journal) : List Dispatch :=
  j.filterMap fun
    | .dispatch dispatch => some dispatch
    | _ => none

/-- The calls to servers. -/
def calls (j : Journal) : List Smtp.Call :=
  j.filterMap fun
    | .call call => some call
    | _ => none

/-- The printed lines. -/
def printed (j : Journal) : List Text :=
  j.filterMap fun
    | .print line => some line
    | _ => none

@[simp] theorem records_append (i j : Journal) : records (i ++ j) = records i ++ records j := by
  simp [records]

@[simp] theorem dispatches_append (i j : Journal) :
    dispatches (i ++ j) = dispatches i ++ dispatches j := by
  simp [dispatches]

@[simp] theorem calls_append (i j : Journal) : calls (i ++ j) = calls i ++ calls j := by
  simp [calls]

@[simp] theorem calls_map_call (said : List Smtp.Call) : calls (said.map .call) = said := by
  induction said with
  | nil => rfl
  | cons call said ih => exact congrArg (call :: ·) ih

@[simp] theorem calls_map_log {α : Type} (record : α → LogRecord) (entries : List α) :
    calls (entries.map fun entry => .log (record entry)) = [] := by
  induction entries with
  | nil => rfl
  | cons _ _ ih => exact ih

@[simp] theorem printed_append (i j : Journal) : printed (i ++ j) = printed i ++ printed j := by
  simp [printed]

end Journal

/-- What came of handing a message on. -/
structure Delivery where
  journal : Journal
  result : Except Failure Unit

/-- What hands a message on. -/
abbrev Mailer := Dispatch → Delivery

end Mailroom
