import Datastream.Text.Hex

/-!
# Plain data

The form in which values are handed to other programs: records, lists, texts and numbers. Not every
reader of such data keeps numbers above 53 bits, so 64-bit words are written as decimal texts; either
spelling is read. Bytes are hexadecimal texts.
-/
namespace Datastream

/-- Plain data. Numbers that are not whole are all alike here: nothing accepts them. -/
inductive Datum
  | null
  | bool (b : Bool)
  | whole (n : Int)
  | fraction
  | text (s : String)
  | items (list : List Datum)
  | record (fields : List (String × Datum))
  deriving Inhabited, Repr

class ToDatum (α : Type) where
  toDatum : α → Datum

class OfDatum (α : Type) where
  ofDatum? : Datum → Option α

export ToDatum (toDatum)
export OfDatum (ofDatum?)

namespace Datum

/-- A field of a record; null if there is none. -/
def field (d : Datum) (name : String) : Datum :=
  match d with
  | record fields => (fields.lookup name).getD null
  | _ => null

/-- A field of a record, read as what is expected of it. -/
def read {α : Type} [OfDatum α] (d : Datum) (name : String) : Option α := ofDatum? (d.field name)

def text? : Datum → Option String
  | text s => some s
  | _ => none

/-- A whole number from `low` up to `high`. -/
def wholeIn? (low high : Int) : Datum → Option Int
  | whole n => if low ≤ n ∧ n ≤ high then some n else none
  | _ => none

/-- A length, which fits 64 bits. -/
def length? (d : Datum) : Option Nat := (d.wholeIn? 0 0xffffffffffffffff).map Int.toNat

/-- A number, written as one or as a decimal text. -/
def number? : Datum → Option Int
  | whole n => some n
  | text s => s.toInt?
  | _ => none

def pair? {α β : Type} (d : Datum) (first second : String) (read : Datum → Option α)
    (read' : Datum → Option β) : Option (α × β) :=
  match d with
  | record fields => do return (← (← fields.lookup first) |> read, ← (← fields.lookup second) |> read')
  | items [a, b] => do return (← read a, ← read' b)
  | _ => none

def hex? (d : Datum) : Option Bytes := d.text?.bind Hex.decode?

/-- A piece of a byte string: hexadecimal text, or one with the number of its repetitions. -/
def piece? : Datum → Option Bytes
  | items [s, n] => do return (List.replicate (← n.number?).toNat (← s.hex?)).flatten
  | d => d.hex?

/-- A byte string: hexadecimal text, a list of pieces, or nothing. -/
def bytes? : Datum → Option Bytes
  | null => some []
  | items pieces => List.flatten <$> pieces.mapM piece?
  | d => d.hex?

/-- A number as so many hexadecimal digits. -/
def digits (width n : Nat) : Datum := text (Hex.padded width n)

/-- A number as decimal text. -/
def decimal (n : Int) : Datum := text (toString n)

end Datum

open Datum

instance : ToDatum Datum := ⟨id⟩
instance : OfDatum Datum := ⟨some⟩
instance : ToDatum Bool := ⟨Datum.bool⟩
instance : ToDatum String := ⟨text⟩
instance : OfDatum String := ⟨text?⟩
instance : OfDatum Bool := ⟨fun
  | Datum.bool b => some b
  | _ => none⟩

instance : ToDatum Int := ⟨whole⟩
instance : ToDatum Nat := ⟨fun n => whole n⟩
instance : ToDatum UInt8 := ⟨fun n => whole n.toNat⟩
instance : ToDatum UInt16 := ⟨fun n => whole n.toNat⟩
instance : ToDatum UInt32 := ⟨fun n => whole n.toNat⟩
instance : ToDatum UInt64 := ⟨fun n => decimal n.toNat⟩
instance : ToDatum Int8 := ⟨fun n => whole n.toInt⟩
instance : ToDatum Int16 := ⟨fun n => whole n.toInt⟩
instance : ToDatum Int32 := ⟨fun n => whole n.toInt⟩
instance : ToDatum Int64 := ⟨fun n => decimal n.toInt⟩

instance : OfDatum Int := ⟨number?⟩
instance : OfDatum Nat := ⟨fun d => Int.toNat <$> d.number?⟩
instance : OfDatum UInt8 := ⟨fun d => UInt8.ofInt <$> d.number?⟩
instance : OfDatum UInt16 := ⟨fun d => UInt16.ofInt <$> d.number?⟩
instance : OfDatum UInt32 := ⟨fun d => UInt32.ofInt <$> d.number?⟩
instance : OfDatum UInt64 := ⟨fun d => UInt64.ofInt <$> d.number?⟩
instance : OfDatum Int8 := ⟨fun d => Int8.ofInt <$> d.number?⟩
instance : OfDatum Int16 := ⟨fun d => Int16.ofInt <$> d.number?⟩
instance : OfDatum Int32 := ⟨fun d => Int32.ofInt <$> d.number?⟩
instance : OfDatum Int64 := ⟨fun d => Int64.ofInt <$> d.number?⟩

instance : ToDatum Bytes := ⟨fun b => text (Hex.encode b)⟩
instance : OfDatum Bytes := ⟨bytes?⟩

instance {α : Type} [ToDatum α] : ToDatum (Option α) := ⟨fun a => (a.map toDatum).getD null⟩

/-- Null reads as nothing. -/
instance {α : Type} [OfDatum α] : OfDatum (Option α) := ⟨fun
  | null => some none
  | d => some <$> ofDatum? d⟩

instance {α : Type} [ToDatum α] : ToDatum (List α) := ⟨fun l => items (l.map toDatum)⟩

/-- Null reads as the empty list. -/
instance {α : Type} [OfDatum α] : OfDatum (List α) := ⟨fun
  | null => some []
  | items list => list.mapM ofDatum?
  | _ => none⟩

instance {α β : Type} [ToDatum α] [ToDatum β] : ToDatum (α × β) :=
  ⟨fun p => items [toDatum p.1, toDatum p.2]⟩

/-- A pair; of more items, the ones after the first read as the second. -/
instance {α β : Type} [OfDatum α] [OfDatum β] : OfDatum (α × β) := ⟨fun
  | items [a, b] => do return (← ofDatum? a, ← ofDatum? b)
  | items (a :: rest) => do return (← ofDatum? a, ← ofDatum? (items rest))
  | _ => none⟩

end Datastream
