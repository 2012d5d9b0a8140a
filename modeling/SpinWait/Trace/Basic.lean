import SpinWait.Digest.Sha256
import SpinWait.Text.Utf8
import SpinWait.Value.Agreement
import SpinWait.Value.Notation

namespace SpinWait

/-- One recorded event. The digest covers the three other parts. -/
structure Event where
  id : Text
  kind : Text
  data : List (Text × Value)
  digest : Text

namespace Event

/-- Identifiers are numbered from 1 on, with sixteen digits. -/
def idOf (number : Nat) : Text := "EVT-".toList ++ (Numeral.decimal number).padZeros 16

def sortByKey (data : List (Text × Value)) : List (Text × Value) :=
  data.mergeSort fun left right => left.1.precedes right.1

/-- What is digested: the order of the entries leaves no mark on it. -/
def preimage (id kind : Text) (data : List (Text × Value)) : Text :=
  id ++ '|' :: (kind ++ '|' :: (Value.list ((sortByKey data).map fun entry =>
    .tuple [.text entry.1, entry.2])).written)

def digestOf (id kind : Text) (data : List (Text × Value)) : Text :=
  Sha256.digest (preimage id kind data).utf8

/-- One line of the printed trace. -/
def line (event : Event) : Text :=
  event.id ++ "  ".toList ++ event.kind.padRight 18 ++ ' ' ::
    " ".toList.intercalate (event.data.map fun entry => entry.1 ++ '=' :: entry.2.shown)

end Event

/-- The events recorded so far, oldest first, and how many identifiers were given out. -/
structure Trace where
  issued : Nat
  events : List Event

/-- Why an event is not recorded, or a question not answered. -/
inductive TraceError
  | emptyKind
  | dataNotMapping (kindName : Text)
  | missingFilter
  | wrongKind
  | oversized
deriving DecidableEq

namespace TraceError

/-- The first three come with a message. -/
def message? : TraceError → Option Text
  | emptyKind => some "event_type must be a non-empty string".toList
  | dataNotMapping kindName => some ("data must be a dict; got: ".toList ++ kindName)
  | missingFilter => some "filter must not be None".toList
  | wrongKind => none
  | oversized => none

end TraceError

namespace Trace

def empty : Trace := ⟨0, []⟩

/-- Stores an event under the next identifier. The identifier is spent even if the event turns out
to have no digest: its kind is no text, or a number in it is too long to be written. -/
def store (trace : Trace) (kind : Value) (data : List (Text × Value)) :
    Except TraceError Text × Trace :=
  let number := trace.issued + 1
  match kind.text? with
  | none => (.error .wrongKind, { trace with issued := number })
  | some characters =>
    if Value.entriesWritable data then
      let id := Event.idOf number
      let event : Event := ⟨id, characters, data, Event.digestOf id characters data⟩
      (.ok id, ⟨number, trace.events ++ [event]⟩)
    else (.error .oversized, { trace with issued := number })

/-- Records an event and answers its identifier. -/
def record (trace : Trace) (kind data : Value) : Except TraceError Text × Trace :=
  if kind.isEmpty then (.error .emptyKind, trace)
  else match data with
    | .mapping entries => trace.store kind entries
    | other => (.error (.dataNotMapping other.kindName), trace)

/-- Names that an event handed over field by field cannot use for its own fields. -/
def reservedKeys : List Text := ["logger".toList, "event_type".toList]

/-- Records an event handed over field by field. Without a trace nothing is recorded, though the
fields are looked at all the same. -/
def emit (trace : Option Trace) (kind data : Value) : Except TraceError Unit × Option Trace :=
  match data with
  | .mapping entries =>
    if entries.any fun entry => reservedKeys.contains entry.1 then (.error .wrongKind, trace)
    else match trace with
      | none => (.ok (), none)
      | some trace =>
        match trace.record kind data with
        | (.ok _, after) => (.ok (), some after)
        | (.error error, after) => (.error error, some after)
  | _ => (.error .wrongKind, trace)

/-- A negative limit counts from the end. -/
def takeLimit (limit : Int) (events : List Event) : List Event :=
  match limit with
  | .ofNat count => events.take count
  | .negSucc short => events.take (events.length - (short + 1))

/-- The events of a kind, or all, and of these the first `limit`, or all. -/
def query (trace : Trace) (kind : Option Value) (limit : Option Int) : List Event :=
  let chosen := match kind with
    | none => trace.events
    | some kind => trace.events.filter fun event => kind.text? = some event.kind
  match limit with
  | none => chosen
  | some limit => takeLimit limit chosen

end Trace

end SpinWait
