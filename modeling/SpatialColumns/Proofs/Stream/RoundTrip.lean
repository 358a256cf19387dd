import SpatialColumns.Stream

/-!
# What is written to a stream is read from it

The words of a term push that term onto the stack and leave what lies below alone,
whatever words follow; the digits of a number append that number to those that were read,
whatever bytes follow. So terms are read back, and record batches up to the restoring that
every reader does.
-/

namespace SpatialColumns.Stream

namespace Term

mutual

/-- The words of a term. -/
def words (t : Term) : List Word :=
  match t with
  | number n => [.number n]
  | tuple items => wordsAll items ++ [.tuple items.length]
  termination_by structural t

def wordsAll (ts : List Term) : List Word :=
  match ts with
  | [] => []
  | t :: ts => words t ++ wordsAll ts
  termination_by structural ts

end

mutual

/-- A term is emitted as its words. -/
theorem emit_eq (t : Term) (out : Array Word) : emit t out = out ++ (words t).toArray := by
  match t with
  | number n => simp [emit, words]
  | tuple items => simp [emit, words, emitAll_eq items out]
  termination_by structural t

theorem emitAll_eq (ts : List Term) (out : Array Word) :
    emitAll ts out = out ++ (wordsAll ts).toArray := by
  match ts with
  | [] => simp [emitAll, wordsAll]
  | t :: ts => simp [emitAll, wordsAll, emit_eq t out, emitAll_eq ts]
  termination_by structural ts

end

/-- Items come off a stack last one first, and are put back in order. -/
theorem popItems_append (top items stack : List Term) :
    popItems top.length items (top ++ stack) = some (top.reverse ++ items, stack) := by
  induction top generalizing items with
  | nil => rfl
  | cons t top ih =>
      rw [List.length_cons, List.cons_append, popItems, ih, List.reverse_cons, List.append_assoc,
        List.singleton_append]

mutual

/-- The words of a term push it onto the stack. -/
theorem readWords_words (t : Term) (rest : List Word) (stack : List Term) :
    readWords (words t ++ rest) stack = readWords rest (t :: stack) := by
  match t with
  | number n => rfl
  | tuple items =>
    have hpop := popItems_append items.reverse [] stack
    rw [List.length_reverse, List.reverse_reverse, List.append_nil] at hpop
    rw [words, List.append_assoc, readWords_wordsAll items, List.singleton_append, readWords, hpop]
  termination_by structural t

theorem readWords_wordsAll (ts : List Term) (rest : List Word) (stack : List Term) :
    readWords (wordsAll ts ++ rest) stack = readWords rest (ts.reverse ++ stack) := by
  match ts with
  | [] => rfl
  | t :: ts =>
    rw [wordsAll, List.append_assoc, readWords_words t, readWords_wordsAll ts, List.reverse_cons,
      List.append_assoc, List.singleton_append]
  termination_by structural ts

end

end Term

/-- The digits of numbers append them to those that were read. -/
theorem DigitReader.foldl_flatMap_digits (codes : List Nat) (numbers : Array Nat) :
    (codes.flatMap digits).foldl step ⟨numbers, 0, 1⟩ = ⟨numbers ++ codes.toArray, 0, 1⟩ := by
  induction codes generalizing numbers with
  | nil => simp
  | cons code codes ih =>
      rw [List.flatMap_cons, List.foldl_append, foldl_digits, ih]
      simp

theorem readTerms_writeTerms (ts : List Term) : readTerms (writeTerms ts) = some ts := by
  have hbytes : writeTerms ts = ((Term.wordsAll ts).map Word.code).flatMap digits := by
    rw [writeTerms, Term.emitAll_eq, List.flatMap_map]
    simp
  have hcodes : ((writeTerms ts).foldl DigitReader.step {}).numbers? =
      some ((Term.wordsAll ts).map Word.code) := by
    rw [hbytes, DigitReader.foldl_flatMap_digits]
    simp [DigitReader.numbers?]
  have hwords : ((Term.wordsAll ts).map Word.code).map Word.ofCode = Term.wordsAll ts := by
    simp [Function.comp_def]
  have hread : Term.readWords (Term.wordsAll ts) [] = some ts.reverse := by
    have h := Term.readWords_wordsAll ts [] []
    rwa [List.append_nil, List.append_nil] at h
  rw [readTerms, hcodes]
  simp [hwords, hread]

/-- Reading restores every record batch that was written, and does nothing else to it. -/
theorem read_write (batches : List RecordBatch) :
    read (write batches) =
      (batches.mapM RecordBatch.restored).mapError (.column "from_ipc") := by
  have hheader : takeHeaderLength? (write batches) =
      some (6, signature ++ writeTerms (batches.map pack)) :=
    takeHeaderLength?_writeHeader signature _
  have hbody : body? 6 (signature ++ writeTerms (batches.map pack)) =
      some (writeTerms (batches.map pack)) := rfl
  have hbatches : batches? 6 (signature ++ writeTerms (batches.map pack)) = some batches := by
    simp only [batches?, hbody, readTerms_writeTerms, Option.bind_eq_bind, Option.bind_some,
      mapM_unpack_pack]
  have hcontents : contents (write batches) = batches.mapM RecordBatch.restored := by
    have hlength : (6 : Int32).toNatClampNeg = 6 := rfl
    have hpositive : ¬ (6 : Int32) < 0 := by decide
    simp only [contents, hheader, if_neg hpositive, hlength, hbatches]
  rw [read, hcontents]

end SpatialColumns.Stream
