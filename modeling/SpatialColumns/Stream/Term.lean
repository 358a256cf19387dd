/-! # Terms

A term is a tree of natural numbers. It is written in post-order: a number
stands for itself, and a tuple follows its items and says how many they are.
Reading keeps the finished terms on a stack. A word is written as a single
number, in base 128 with the least digit first; all digits of a number but the
last have the high bit of their byte set. -/

namespace SpatialColumns.Stream

inductive Term where
  | number (n : Nat)
  | tuple (items : List Term)

inductive Word where
  | number (n : Nat)
  | tuple (count : Nat)
  deriving DecidableEq, Repr

namespace Term

mutual

/-- Appends the words of a term. -/
def emit (t : Term) (out : Array Word) : Array Word :=
  match t with
  | number n => out.push (.number n)
  | tuple items => (emitAll items out).push (.tuple items.length)
  termination_by structural t

def emitAll (ts : List Term) (out : Array Word) : Array Word :=
  match ts with
  | [] => out
  | t :: ts => emitAll ts (emit t out)
  termination_by structural ts

end

/-- Takes items off a stack, of which the last one pushed is the last item. -/
def popItems : (count : Nat) → (items stack : List Term) → Option (List Term × List Term)
  | 0, items, stack => some (items, stack)
  | count + 1, items, t :: stack => popItems count (t :: items) stack
  | _ + 1, _, [] => none

/-- The stack after reading words. -/
def readWords : List Word → (stack : List Term) → Option (List Term)
  | [], stack => some stack
  | .number n :: words, stack => readWords words (number n :: stack)
  | .tuple count :: words, stack =>
    match popItems count [] stack with
    | some (items, stack) => readWords words (tuple items :: stack)
    | none => none

end Term

namespace Word

/-- A word as a number, whose lowest bit tells tuples from numbers. -/
def code : Word → Nat
  | number n => 2 * n
  | tuple count => 2 * count + 1

def ofCode (code : Nat) : Word :=
  if code % 2 = 0 then number (code / 2) else tuple (code / 2)

@[simp] theorem ofCode_code (w : Word) : ofCode w.code = w := by
  cases w with
  | number n => simp [code, ofCode]
  | tuple count =>
    have hodd : (2 * count + 1) % 2 = 1 := by omega
    have hhalf : (2 * count + 1) / 2 = count := by omega
    simp [code, ofCode, hodd, hhalf]

end Word

/-- The digits of a number in base 128. -/
def digits (n : Nat) : List UInt8 :=
  if n < 128 then [UInt8.ofNat n] else UInt8.ofNat (128 + n % 128) :: digits (n / 128)
  termination_by n
  decreasing_by omega

/-- The numbers read so far, and the number being read: its digits' sum, and
what the next digit counts. -/
structure DigitReader where
  numbers : Array Nat := #[]
  sum : Nat := 0
  place : Nat := 1

namespace DigitReader

def step (r : DigitReader) (byte : UInt8) : DigitReader :=
  if byte.toNat < 128 then ⟨r.numbers.push (r.sum + byte.toNat * r.place), 0, 1⟩
  else ⟨r.numbers, r.sum + (byte.toNat - 128) * r.place, r.place * 128⟩

/-- The numbers, if the last one is complete. -/
def numbers? (r : DigitReader) : Option (List Nat) :=
  if r.place = 1 then some r.numbers.toList else none

theorem foldl_digits (n : Nat) (r : DigitReader) :
    (digits n).foldl step r = ⟨r.numbers.push (r.sum + n * r.place), 0, 1⟩ := by
  fun_induction digits n generalizing r with
  | case1 n h =>
    have hn : n % 256 = n := by omega
    simp [step, hn, h]
  | case2 n h ih =>
    have hlt : n % 128 < 128 := Nat.mod_lt _ (by decide)
    have hb : (128 + n % 128) % 256 = 128 + n % 128 := by omega
    rw [List.foldl_cons, ih]
    simp only [step, UInt8.toNat_ofNat', Nat.reducePow, hb]
    rw [if_neg (by omega)]
    have hs : r.sum + n % 128 * r.place + n / 128 * (r.place * 128) = r.sum + n * r.place := by
      rw [Nat.add_assoc, Nat.mul_comm r.place 128, ← Nat.mul_assoc, ← Nat.add_mul]
      congr 2
      omega
    simp [hs]

end DigitReader

/-- The bytes of the words of some terms. -/
def writeTerms (ts : List Term) : List UInt8 :=
  (Term.emitAll ts #[]).toList.flatMap fun word => digits word.code

/-- The terms that bytes are the words of. -/
def readTerms (bytes : List UInt8) : Option (List Term) := do
  let codes ← (bytes.foldl DigitReader.step {}).numbers?
  return (← Term.readWords (codes.map Word.ofCode) []).reverse

end SpatialColumns.Stream
