import Vetting.Json.Record

namespace Vetting

open Json (Record RecordShape Shaped Slot)

-- An absent bound does not restrict.
structure Bounds where
  min : Option Double := none
  max : Option Double := none
deriving DecidableEq, Inhabited

namespace Bounds

def contains (bounds : Bounds) (value : Double) : Bool :=
  bounds.min.all (fun min => decide (min ≤ value)) && bounds.max.all fun max => decide (value ≤ max)

-- Drops bounds that are zero, of either sign.
def withoutZero (bounds : Bounds) : Bounds where
  min := bounds.min.filter fun min => !min.isZero
  max := bounds.max.filter fun max => !max.isZero

def text (bounds : Bounds) : String :=
  match bounds.min.map Layout.plain.text, bounds.max.map Layout.plain.text with
  | some min, some max => s!"{min}..={max}"
  | some min, none => s!">= {min}"
  | none, some max => s!"<= {max}"
  | none, none => "unbounded"

def boundSlot (key : String) : Slot (Option Double) :=
  ⟨key, Json.asOptional Json.asDouble, some none⟩

def minSlot : Slot (Option Double) := boundSlot "min"
def maxSlot : Slot (Option Double) := boundSlot "max"

def shape : RecordShape where
  name := "struct Bounds"
  checks := [minSlot.check, maxSlot.check]

def ofRecord (record : Record) : Shaped Bounds := do
  return { min := ← record.get 0 minSlot, max := ← record.get 1 maxSlot }

def ofJson (value : Json) : Shaped Bounds := shape.read ofRecord value

end Bounds

end Vetting
