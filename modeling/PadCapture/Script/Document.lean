import PadCapture.Script.Compile
import PadCapture.Toml.Decode
import PadCapture.Toml.Document

/-!
# Script documents
-/

namespace PadCapture.Script

open Toml

inductive Fault where
  | malformed
  | step (fault : NumberedFault)
deriving DecidableEq, Repr

def readByte (value : Value) : Option UInt8 :=
  (value.integer? .nat8).map fun number => .ofNat number.toNat

def readNatural (value : Value) : Option Nat := (value.integer? .nat64).map Int.toNat

def stepFields : List String := ["port", "delay_ms", "buttons", "axes"]

def readStep (value : Value) : Option WrittenStep := do
  let fields ← value.fields? stepFields
  let port ← fields.get "port" 0 readNatural
  let delay ← fields.get "delay_ms" 0 readNatural
  let buttons ← fields.get "buttons" [] fun value => value.list? Value.text?
  let axes ← fields.get "axes" [] fun value => value.entries? readByte
  return ⟨port, delay, buttons, sortEntries axes, keysIncrease_sortEntries axes⟩

/-- Read a whole document: whether the script repeats, and its steps. -/
def readDocument (document : Value) : Option (Bool × List WrittenStep) := do
  let fields ← document.fields? ["repeat", "step"]
  let repeats ← fields.get "repeat" false Value.boolean?
  let written ← fields.get "step" [] fun value => value.list? readStep
  return (repeats, written)

def parse (text : String) : Except Fault Script :=
  match (Toml.parse text).bind readDocument with
  | none => .error .malformed
  | some (repeats, written) =>
      match compile written with
      | .error fault => .error (.step fault)
      | .ok steps => .ok ⟨steps, repeats⟩

end PadCapture.Script
