import SpinWait.Text.Basic

namespace SpinWait

/-- The substrings by which the parts of a compiled method are found in a log. -/
structure Markers where
  /-- Name, signature and holder, as they stand in the line that announces the method. -/
  header : Text
  /-- The holder class with slashes, which also occurs outside the header. -/
  qualifiedName : Text
  /-- The comment at the call. -/
  callSite : Text
  /-- The frame that follows the call. -/
  callSiteFrame : Text
  /-- Any of these ends the method. -/
  regionEnd : List Text
deriving DecidableEq

namespace Markers

def defaultHolder : Text := "compiler.onSpinWait.TestOnSpinWaitAArch64$Launcher".toList

def defaultName : Text := "test".toList

def defaultSignature : Text := "()V".toList

def defaultCallSite : Text := "*invokestatic onSpinWait".toList

def defaultRegionEnd : List Text := ["[Exception Handler]".toList, "[/Disassembly]".toList]

/-- A dotted class name with slashes instead. -/
def slashed (holder : Text) : Text := holder.map fun c => if c = '.' then '/' else c

def forMethod (holder name signature callSite : Text) : Markers where
  header := "'".toList ++ name ++ "' '".toList ++ signature ++ "' in '".toList ++ slashed holder ++
    "'".toList
  qualifiedName := slashed holder
  callSite := callSite
  callSiteFrame := "- ".toList ++ holder ++ "::".toList ++ name ++ "@0".toList
  regionEnd := defaultRegionEnd

def default : Markers := forMethod defaultHolder defaultName defaultSignature defaultCallSite

end Markers

end SpinWait
