namespace ScreenCapture.Text

/-- The characters with the Unicode property White_Space. -/
def isBlank (c : Char) : Bool :=
  let n := c.toNat
  (9 ≤ n && n ≤ 13) || n = 32 || n = 0x85 || n = 0xA0 || n = 0x1680 || (0x2000 ≤ n && n ≤ 0x200A) ||
    n = 0x2028 || n = 0x2029 || n = 0x202F || n = 0x205F || n = 0x3000

/-- Cuts the blanks off both ends. -/
def trim (s : List Char) : List Char :=
  ((s.dropWhile isBlank).reverse.dropWhile isBlank).reverse

/-- Splits at the first occurrence of a character, which is left out. -/
def splitAt? (c : Char) : List Char → Option (List Char × List Char)
  | [] => none
  | d :: r => if d = c then some ([], r) else (splitAt? c r).map fun (a, b) => (d :: a, b)

theorem splitAt?_eq_some {c : Char} {s a b : List Char} :
    splitAt? c s = some (a, b) ↔ s = a ++ c :: b ∧ c ∉ a := by
  induction s generalizing a with
  | nil => simp [splitAt?]
  | cons d r ih =>
    by_cases hd : d = c
    · subst d
      cases a with
      | nil => simp [splitAt?]
      | cons x a =>
        simp only [splitAt?, if_true, Option.some.injEq, Prod.mk.injEq, List.cons_append,
          List.cons.injEq, List.mem_cons, not_or]
        constructor
        · rintro ⟨h, -⟩
          simp at h
        · rintro ⟨⟨h, -⟩, h', -⟩
          exact absurd h h'
    · cases a with
      | nil =>
        simp [splitAt?, hd]
      | cons x a =>
        simp only [splitAt?, hd, if_false, Option.map_eq_some_iff, Prod.mk.injEq, List.cons.injEq,
          Prod.exists, List.cons_append, List.mem_cons, not_or]
        constructor
        · rintro ⟨a', b', h, ⟨rfl, rfl⟩, rfl⟩
          obtain ⟨h1, h2⟩ := ih.mp h
          exact ⟨⟨rfl, h1⟩, fun h => hd h.symm, h2⟩
        · rintro ⟨⟨rfl, h1⟩, -, h2⟩
          exact ⟨a, b, ih.mpr ⟨h1, h2⟩, ⟨rfl, rfl⟩, rfl⟩

end ScreenCapture.Text
