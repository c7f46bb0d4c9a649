import PadCapture.Log.Logged

/-!
# Typed parameter values

A stored text is read as a value of the wanted type.  A missing value gives the
default; so does an unreadable one, which is reported.
-/

namespace PadCapture.Params

open Numeral

def lookup {α : Type} (params : Params) (read : String → Except ValueFault α) (key : String)
    (default : α) : Logged α :=
  match params.get? key with
  | none => pure default
  | some raw =>
      match read raw with
      | .ok value => pure value
      | .error fault => do
          Logged.note (.parameterUnreadable key raw fault)
          return default

def readInteger (kind : IntegerKind) (text : String) : Except ValueFault Int :=
  (parseInteger kind text).mapError .integer

def readSingle (text : String) : Except ValueFault Single :=
  (Floating.parse text).mapError .float

def readBool (text : String) : Except ValueFault Bool :=
  if text = "true" then .ok true
  else if text = "false" then .ok false
  else .error .boolean

def integer (params : Params) (kind : IntegerKind) (key : String) (default : Int) : Logged Int :=
  params.lookup (readInteger kind) key default

def single (params : Params) (key : String) (default : Single) : Logged Single :=
  params.lookup readSingle key default

def boolean (params : Params) (key : String) (default : Bool) : Logged Bool :=
  params.lookup readBool key default

def setInteger (params : Params) (key : String) (value : Int) : Params :=
  params.set key (integerText value)

def setSingle (params : Params) (key : String) (value : Single) : Params :=
  params.set key (value.text .plain)

def setBool (params : Params) (key : String) (value : Bool) : Params :=
  params.set key (if value then "true" else "false")

end PadCapture.Params
