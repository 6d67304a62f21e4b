import Calculator.Fault
import Calculator.Utf8

namespace Calculator

/-- A place to write to, which may have room for a limited number of bytes only. -/
structure Sink where
  room : Option Nat
deriving DecidableEq

/-- What a write came to: the bytes that were kept, the sink after it, and whether all of the text
went in. -/
structure Written where
  kept : List UInt8
  sink : Sink
  complete : Bool

/-- A sink that takes everything. -/
def Sink.unlimited : Sink := ⟨none⟩

/-- The fault of a write that did not fit. -/
def Sink.full : Fault := .device "sink full"

/-- Writes a text, as far as it fits. -/
def Sink.write (sink : Sink) (text : String) : Written :=
  let bytes := encodeUtf8 text
  match sink.room with
  | none => ⟨bytes, sink, true⟩
  | some room => ⟨bytes.take room, ⟨some (room - bytes.length)⟩, bytes.length ≤ room⟩

end Calculator
