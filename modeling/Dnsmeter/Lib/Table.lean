import Dnsmeter.Lib.Lines

/-!
# Tables as text

Every field of a row is followed by `sep`, every row by `eol`. A table is read back (`read_table`) if
no field holds one of the two; it grows at its end (`table_append`).
-/

namespace Table

variable {α : Type}

def row (sep eol : α) (fields : List (List α)) : List α := fields.flatMap (· ++ [sep]) ++ [eol]

def table (sep eol : α) (rows : List (List (List α))) : List α := rows.flatMap (row sep eol)

theorem table_append (sep eol : α) (rows rows' : List (List (List α))) :
    table sep eol (rows ++ rows') = table sep eol rows ++ table sep eol rows' :=
  List.flatMap_append

section
variable [DecidableEq α] {sep eol : α}

/-- What each separator ends; behind the last one is the end of the row. -/
def fields (sep : α) (line : List α) : List (List α) :=
  (Lines.lines sep line).dropLast.map List.dropLast

def read (sep eol : α) (text : List α) : List (List (List α)) :=
  (Lines.lines eol text).map (fields sep)

/-- The field is no more than a field. -/
def Plain (sep eol : α) (field : List α) : Prop := sep ∉ field ∧ eol ∉ field

instance (field : List α) : Decidable (Plain sep eol field) :=
  inferInstanceAs (Decidable (_ ∧ _))

theorem lines_sep (hne : sep ≠ eol) {fs : List (List α)} (h : ∀ f ∈ fs, Plain sep eol f) :
    Lines.lines sep (row sep eol fs) = fs.map (· ++ [sep]) ++ [[eol]] := by
  induction fs with
  | nil =>
    have heol : sep ∉ [eol] := by simpa using hne
    exact Lines.lines_last heol (List.cons_ne_nil eol [])
  | cons f fs ih =>
    obtain ⟨hf, hfs⟩ := List.forall_mem_cons.1 h
    have hrow : row sep eol (f :: fs) = f ++ sep :: row sep eol fs := by
      simp [row]
    rw [hrow, Lines.lines_cons hf.1, ih hfs]
    rfl

theorem fields_row (hne : sep ≠ eol) {fs : List (List α)} (h : ∀ f ∈ fs, Plain sep eol f) :
    fields sep (row sep eol fs) = fs := by
  rw [fields, lines_sep hne h, List.dropLast_concat, List.map_map]
  have hid : (List.dropLast ∘ fun f : List α => f ++ [sep]) = id := by
    funext f
    exact List.dropLast_concat
  rw [hid, List.map_id]

theorem lines_eol (hne : sep ≠ eol) {rows : List (List (List α))}
    (h : ∀ r ∈ rows, ∀ f ∈ r, Plain sep eol f) :
    Lines.lines eol (table sep eol rows) = rows.map (row sep eol) := by
  induction rows with
  | nil => rfl
  | cons r rows ih =>
    obtain ⟨hr, hrows⟩ := List.forall_mem_cons.1 h
    have hbody : eol ∉ r.flatMap (· ++ [sep]) := by
      intro hmem
      obtain ⟨f, hf, hmem⟩ := List.mem_flatMap.1 hmem
      rcases List.mem_append.1 hmem with hmem | hmem
      · exact (hr f hf).2 hmem
      · exact hne (List.mem_singleton.1 hmem).symm
    have htable : table sep eol (r :: rows) =
        r.flatMap (· ++ [sep]) ++ eol :: table sep eol rows := by
      simp [table, row]
    rw [htable, Lines.lines_cons hbody, ih hrows]
    rfl

/-- **A table is read back.** -/
theorem read_table (hne : sep ≠ eol) {rows : List (List (List α))}
    (h : ∀ r ∈ rows, ∀ f ∈ r, Plain sep eol f) : read sep eol (table sep eol rows) = rows := by
  rw [read, lines_eol hne h, List.map_map]
  have hrows : rows.map (fields sep ∘ row sep eol) = rows.map id :=
    List.map_congr_left fun r hr => fields_row hne (h r hr)
  rw [hrows, List.map_id]

end

end Table
