import SpinWait.Log.Token
import SpinWait.Trace.Basic

namespace SpinWait

/-- What a check notes on its way. -/
inductive Note
  | markerFound (marker : Text) (index : Nat)
  | formatDetected (layout : Log.Layout) (regionLines : Nat)
  | tokensCollected (count : Nat) (target : Option Text)
  | runCounted (target : Text) (found expected : Nat)
  | slotMatched (slot : Nat) (token : Text)
  | verdict (layout : Log.Layout) (detail : Text)
deriving DecidableEq

namespace Note

def kind : Note → Text
  | markerFound .. => "MARKER_FOUND".toList
  | formatDetected .. => "FORMAT_DETECTED".toList
  | tokensCollected .. => "TOKENS_COLLECTED".toList
  | runCounted .. => "RUN_COUNTED".toList
  | slotMatched .. => "IDIOM_SLOT_MATCHED".toList
  | verdict .. => "VERDICT".toList

def data : Note → List (Text × Value)
  | markerFound marker index =>
    [("marker".toList, .text marker), ("index".toList, .number index)]
  | formatDetected layout regionLines =>
    [("format".toList, .text layout.name), ("region_lines".toList, .number regionLines)]
  | tokensCollected count none => [("count".toList, .number count)]
  | tokensCollected count (some target) =>
    [("count".toList, .number count), ("target".toList, .text target)]
  | runCounted target found expected =>
    [("target".toList, .text target), ("found".toList, .number found),
      ("expected".toList, .number expected)]
  | slotMatched slot token => [("slot".toList, .number slot), ("token".toList, .text token)]
  | verdict layout detail =>
    [("passed".toList, .flag true), ("format".toList, .text layout.name),
      ("detail".toList, .text detail)]

end Note

end SpinWait
