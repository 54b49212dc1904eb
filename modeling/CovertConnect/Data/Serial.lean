import CovertConnect.Data.Bytes

namespace CovertConnect.Data

/-! # Values one behind the other

A reader takes its value from the front of the bytes and leaves the rest. -/

inductive Endian where
  | little
  | big
deriving DecidableEq, Repr

namespace Endian

def bytes (endian : Endian) (width value : Nat) : Bytes :=
  match endian with
  | .little => leBytes width value
  | .big => beBytes width value

def number (endian : Endian) (bytes : Bytes) : Nat :=
  match endian with
  | .little => leNat bytes
  | .big => beNat bytes

@[simp] theorem bytes_length (endian : Endian) (width value : Nat) :
    (endian.bytes width value).length = width := by
  cases endian with
  | little => exact leBytes_length width value
  | big => exact beBytes_length width value

theorem number_bytes (endian : Endian) {width value : Nat} (fits : value < 256 ^ width) :
    endian.number (endian.bytes width value) = value := by
  cases endian with
  | little => exact (leNat_leBytes width value).trans (Nat.mod_eq_of_lt fits)
  | big => exact beNat_beBytes_of_lt fits

end Endian

abbrev Reader (α : Type) : Type :=
  StateT Bytes Option α

namespace Reader

variable {α β : Type}

def exactly (count : Nat) : Reader Bytes := fun bytes =>
  if count ≤ bytes.length then some (bytes.take count, bytes.drop count) else none

def byte : Reader UInt8 := fun bytes =>
  match bytes with
  | byte :: rest => some (byte, rest)
  | [] => none

def number (endian : Endian) (width : Nat) : Reader Nat := do
  return endian.number (← exactly width)

def times (item : Reader α) : (count : Nat) → Reader (List α)
  | 0 => return []
  | count + 1 => do
      let first ← item
      let others ← times item count
      return first :: others

end Reader

/-- The bytes give the value, whatever is behind them. -/
def Gives {α : Type} (read : Reader α) (bytes : Bytes) (value : α) : Prop :=
  ∀ rest, read.run (bytes ++ rest) = some (value, rest)

namespace Gives

variable {α β : Type} {read : Reader α} {next : α → Reader β} {bytes back : Bytes} {value : α}
  {result : β}

theorem pure (value : α) : Gives (Pure.pure value) [] value :=
  fun _ => rfl

theorem bind (first : Gives read bytes value) (second : Gives (next value) back result) :
    Gives (read >>= next) (bytes ++ back) result := by
  intro rest
  rw [List.append_assoc, StateT.run_bind, first (back ++ rest)]
  exact second rest

/-- The last field, of which the value is made. -/
theorem last (f : α → β) (given : Gives read bytes value) :
    Gives (read >>= fun value => Pure.pure (f value)) bytes (f value) := by
  have both : Gives (read >>= fun value => Pure.pure (f value)) (bytes ++ []) (f value) :=
    given.bind (pure (f value))
  rwa [List.append_nil] at both

theorem exactly (bytes : Bytes) : Gives (Reader.exactly bytes.length) bytes bytes := by
  intro rest
  change (if bytes.length ≤ (bytes ++ rest).length then _ else none) = _
  rw [if_pos (by simp), List.take_left, List.drop_left]

theorem byte (byte : UInt8) : Gives Reader.byte [byte] byte :=
  fun _ => rfl

theorem number (endian : Endian) {width value : Nat} (fits : value < 256 ^ width) :
    Gives (Reader.number endian width) (endian.bytes width value) value := by
  have read := (exactly (endian.bytes width value)).last endian.number
  rwa [Endian.bytes_length, Endian.number_bytes endian fits] at read

/-- A field for each item, in their order. -/
theorem times {write : β → Bytes} {f : β → α} {items : List β}
    (each : ∀ item ∈ items, Gives read (write item) (f item)) :
    Gives (read.times items.length) (items.flatMap write) (items.map f) := by
  induction items with
  | nil => exact pure []
  | cons item items ih =>
      have first := each item List.mem_cons_self
      have others := ih fun other there => each other (List.mem_cons_of_mem _ there)
      exact first.bind (others.last (f item :: ·))

end Gives

end CovertConnect.Data
