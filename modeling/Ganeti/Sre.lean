-- Python 2's `re` on the patterns of `constants.py`: what `sre_parse` and
-- `sre_compile` make of a pattern, and the backtracking match of `_sre`. The law:
-- a greedy `REPEAT_ONE` before an end of subject takes the longest run or fails.
import Mathlib.Data.List.Basic

namespace ganeti.constants

/-! ## Compiled patterns -/

/-- A member of a character set as `sre_parse` reads it. -/
inductive SetItem where
  | LITERAL (c : Char)
  | RANGE (lo hi : Char)
  /-- `\d`; without the `UNICODE` flag, `0` to `9`. -/
  | CATEGORY_DIGIT
  deriving DecidableEq, Repr

def SetItem.contains : SetItem → Char → Bool
  | .LITERAL c, x => x == c
  | .RANGE lo hi, x => decide (lo ≤ x ∧ x ≤ hi)
  | .CATEGORY_DIGIT, x => x.isDigit

/-- The test of the `IN` opcode. -/
def inSet (items : List SetItem) (c : Char) : Bool :=
  items.any (·.contains c)

@[simp] theorem SetItem.contains_LITERAL (c x : Char) : (SetItem.LITERAL c).contains x = (x == c) :=
  rfl

@[simp] theorem SetItem.contains_CATEGORY_DIGIT (x : Char) : SetItem.CATEGORY_DIGIT.contains x = x.isDigit :=
  rfl

/-- The ranges `a-z`, `A-Z` and `0-9` are Lean's ASCII tests. -/
@[simp] theorem SetItem.contains_a_z (x : Char) : (SetItem.RANGE 'a' 'z').contains x = x.isLower := by
  simp only [SetItem.contains, Char.isLower, Bool.decide_and, ge_iff_le]
  rfl

@[simp] theorem SetItem.contains_A_Z (x : Char) : (SetItem.RANGE 'A' 'Z').contains x = x.isUpper := by
  simp only [SetItem.contains, Char.isUpper, Bool.decide_and, ge_iff_le]
  rfl

@[simp] theorem SetItem.contains_0_9 (x : Char) : (SetItem.RANGE '0' '9').contains x = x.isDigit := by
  simp only [SetItem.contains, Char.isDigit, Bool.decide_and, ge_iff_le]
  rfl

theorem inSet_CATEGORY_DIGIT : inSet [.CATEGORY_DIGIT] = Char.isDigit := by
  funext c
  simp [inSet]

/-- The opcodes that `sre_compile` emits for the patterns of `constants.py`. A
repeat of one character wide, the only kind these patterns have, is `REPEAT_ONE`;
its `max` is `none` for `MAXREPEAT`, no bound. A group is the pair of marks
`MARK 2g` and `MARK 2g+1` around its body. -/
inductive Op where
  | AT_BEGINNING
  | AT_END
  | LITERAL (c : Char)
  | IN (items : List SetItem)
  | REPEAT_ONE (items : List SetItem) (min : Nat) (max : Option Nat)
  | MARK (n : Nat)
  deriving DecidableEq, Repr

/-! ## `sre_parse` and `sre_compile` -/

/-- The items of a set after its `[`, up to its `]`: literals, ranges of plain
characters and `\d`. A reversed range is `sre_parse`'s "bad character range". -/
def parseSet : List Char → Option (List SetItem × List Char)
  | [] => none
  | ']' :: rest => some ([], rest)
  | '\\' :: 'd' :: rest => (fun (items, rest) => (.CATEGORY_DIGIT :: items, rest)) <$> parseSet rest
  | '\\' :: _ => none
  | a :: '-' :: ']' :: rest => some ([.LITERAL a, .LITERAL '-'], rest)
  | _ :: '-' :: '\\' :: _ => none
  | a :: '-' :: b :: rest =>
    if b < a then none
    else (fun (items, rest) => (.RANGE a b :: items, rest)) <$> parseSet rest
  | a :: rest => (fun (items, rest) => (.LITERAL a :: items, rest)) <$> parseSet rest

/-- The value of a run of decimal digits, as `int()` reads it. -/
def digitsValue (ds : List Char) : Nat :=
  ds.foldl (fun n d => 10 * n + (d.toNat - '0'.toNat)) 0

/-- `{lo,hi}` after its `{`: an empty bound is 0 below and `MAXREPEAT` above, and no
comma makes `hi` the same as `lo`. -/
def parseBraces (s : List Char) : Option ((Nat × Option Nat) × List Char) :=
  let lo := s.takeWhile Char.isDigit
  let s := s.dropWhile Char.isDigit
  let (hi, s) := match s with
    | ',' :: rest => (some (rest.takeWhile Char.isDigit), rest.dropWhile Char.isDigit)
    | _ => (none, s)
  match s with
  | '}' :: rest =>
    let min := digitsValue lo
    let max := match hi with
      | some [] => none
      | some ds => some (digitsValue ds)
      | none => some min
    if max.all (min ≤ ·) then some ((min, max), rest) else none
  | _ => none

/-- An item of the set `items`, with the repeat that follows it, if any. -/
def repeated (items : List SetItem) : List Char → Option (Op × List Char)
  | '+' :: rest => some (.REPEAT_ONE items 1 none, rest)
  | '*' :: rest => some (.REPEAT_ONE items 0 none, rest)
  | '?' :: _ => none
  | '{' :: rest => (fun ((min, max), rest) => (.REPEAT_ONE items min max, rest)) <$> parseBraces rest
  | rest => some (.IN items, rest)

/-- `sre_parse` then `sre_compile`, for anchors, literals, sets, `\d`, the repeats
`+`, `*` and `{m,n}` of one of those, and groups; `g` counts the groups opened and
`groups` holds the ones not yet closed. Anything else is `none`: an error, or a
construct that these patterns do not use. Each step reads a character, so the
length of the pattern is fuel enough. -/
def parseSeq : (fuel : Nat) → (g : Nat) → (groups : List Nat) → List Char → Option (List Op)
  | 0, _, _, _ => none
  | _ + 1, _, [], [] => some []
  | _ + 1, _, _ :: _, [] => none
  | f + 1, g, st, '^' :: rest => (.AT_BEGINNING :: ·) <$> parseSeq f g st rest
  | f + 1, g, st, '$' :: rest => (.AT_END :: ·) <$> parseSeq f g st rest
  | _ + 1, _, _, '(' :: '?' :: _ => none
  | f + 1, g, st, '(' :: rest => (.MARK (2 * g) :: ·) <$> parseSeq f (g + 1) (g :: st) rest
  | f + 1, g, i :: st, ')' :: rest => (.MARK (2 * i + 1) :: ·) <$> parseSeq f g st rest
  | _ + 1, _, [], ')' :: _ => none
  | _ + 1, _, _, '[' :: '^' :: _ => none
  | _ + 1, _, _, '[' :: ']' :: _ => none
  | f + 1, g, st, '[' :: rest => do
    let (items, rest) ← parseSet rest
    let (op, rest) ← repeated items rest
    (op :: ·) <$> parseSeq f g st rest
  | f + 1, g, st, '\\' :: 'd' :: rest => do
    let (op, rest) ← repeated [.CATEGORY_DIGIT] rest
    (op :: ·) <$> parseSeq f g st rest
  | _ + 1, _, _, '\\' :: _ => none
  | f + 1, g, st, c :: rest =>
    if c ∈ ['.', '|', '*', '+', '?', '{', ']'] then none
    else do
      let (op, rest) ← repeated [.LITERAL c] rest
      let op := match op with
        | .IN [.LITERAL c] => .LITERAL c
        | op => op
      (op :: ·) <$> parseSeq f g st rest

/-- A compiled pattern, `re.compile`'s result. -/
structure Pattern where
  code : List Op
  deriving DecidableEq, Repr

/-- `re.compile(pattern)`; `none` is the `re.error` that stops the import. -/
def compile (pattern : String) : Option Pattern :=
  Pattern.mk <$> parseSeq (pattern.length + 1) 0 [] pattern.toList

/-! ## `_sre`'s match -/

/-- The marks a match has set, the latest first. -/
abbrev Marks := List (Nat × Nat)

/-- `SRE_COUNT`: how many members of the set start the subject, at most `max`. -/
def sreCount (items : List SetItem) (max : Option Nat) (s : List Char) : Nat :=
  match max with
  | some k => min k (s.takeWhile (inSet items)).length
  | none => (s.takeWhile (inSet items)).length

/-- The loop of `REPEAT_ONE`: the tail after `k` repetitions, then after one fewer,
down to `min`; the first tail that matches wins. -/
def repeatLoop {α : Type} (tail : Nat → Option α) (min : Nat) : Nat → Option α
  | 0 => if min = 0 then tail 0 else none
  | k + 1 =>
    if min ≤ k + 1 then
      match tail (k + 1) with
      | some r => some r
      | none => repeatLoop tail min k
    else none

/-- The rests of the subject where `AT_END` holds: the end, and a final newline. -/
def IsEnd (t : List Char) : Prop := t = [] ∨ t = ['\n']

instance (t : List Char) : Decidable (IsEnd t) := inferInstanceAs (Decidable (_ ∨ _))

/-- `SRE_MATCH` at position `pos` with the rest `s` of the subject: the position
where the pattern ends and the marks it set, or `none`. -/
def sreMatch : List Op → (pos : Nat) → List Char → Marks → Option (Nat × Marks)
  | [], pos, _, m => some (pos, m)
  | .AT_BEGINNING :: ops, pos, s, m => if pos = 0 then sreMatch ops pos s m else none
  | .AT_END :: ops, pos, s, m => if IsEnd s then sreMatch ops pos s m else none
  | .LITERAL c :: ops, pos, x :: s, m => if x = c then sreMatch ops (pos + 1) s m else none
  | .LITERAL _ :: _, _, [], _ => none
  | .IN items :: ops, pos, x :: s, m => if inSet items x then sreMatch ops (pos + 1) s m else none
  | .IN _ :: _, _, [], _ => none
  | .REPEAT_ONE items min max :: ops, pos, s, m =>
    repeatLoop (fun k => sreMatch ops (pos + k) (s.drop k) m) min (sreCount items max s)
  | .MARK n :: ops, pos, s, m => sreMatch ops pos s ((n, pos) :: m)

/-- A match object: the subject, and the marks of the match. -/
structure Match where
  string : List Char
  marks : Marks

/-- `m.group(i)` for `i ≥ 1`: the text between the group's marks, `none` for a
group that took no part. -/
def Match.group (mt : Match) (i : Nat) : Option String :=
  match mt.marks.lookup (2 * (i - 1)), mt.marks.lookup (2 * (i - 1) + 1) with
  | some a, some b => some (String.mk ((mt.string.drop a).take (b - a)))
  | _, _ => none

/-- `pattern.match(s)`: a match at the start of `s`, which need not reach its end.
A Python 2 `str` is read as the string of its bytes. -/
def reMatch (p : Pattern) (s : String) : Option Match :=
  (sreMatch p.code 0 s.toList []).map fun (_, m) => ⟨s.toList, m⟩

/-! ## One lemma per opcode -/

section opcodes

variable {ops : List Op} {pos : Nat} {s : List Char} {m : Marks}

@[simp] theorem sreMatch_nil : sreMatch [] pos s m = some (pos, m) := rfl

theorem sreMatch_AT_BEGINNING :
    sreMatch (.AT_BEGINNING :: ops) pos s m = if pos = 0 then sreMatch ops pos s m else none := by
  rw [sreMatch]

theorem sreMatch_AT_END :
    sreMatch (.AT_END :: ops) pos s m = if IsEnd s then sreMatch ops pos s m else none := by
  rw [sreMatch]

theorem sreMatch_LITERAL_nil {c : Char} : sreMatch (.LITERAL c :: ops) pos [] m = none := by
  rw [sreMatch]

theorem sreMatch_LITERAL_cons {c x : Char} :
    sreMatch (.LITERAL c :: ops) pos (x :: s) m =
      if x = c then sreMatch ops (pos + 1) s m else none := by
  rw [sreMatch]

theorem sreMatch_MARK {n : Nat} : sreMatch (.MARK n :: ops) pos s m = sreMatch ops pos s ((n, pos) :: m) := by
  rw [sreMatch]

theorem sreMatch_REPEAT_ONE {items : List SetItem} {lo : Nat} {hi : Option Nat} :
    sreMatch (.REPEAT_ONE items lo hi :: ops) pos s m =
      repeatLoop (fun k => sreMatch ops (pos + k) (s.drop k) m) lo (sreCount items hi s) := by
  rw [sreMatch]

end opcodes

/-- A run of literals matches exactly its own text at the start of the rest. -/
theorem sreMatch_LITERALs (w : List Char) (ops : List Op) :
    ∀ pos s m, sreMatch (w.map .LITERAL ++ ops) pos s m =
      if w <+: s then sreMatch ops (pos + w.length) (s.drop w.length) m else none := by
  induction w with
  | nil => simp
  | cons c w ih =>
    intro pos s m
    cases s with
    | nil => simp [sreMatch_LITERAL_nil]
    | cons x s =>
      rw [List.map_cons, List.cons_append, sreMatch_LITERAL_cons, ih]
      simp only [List.cons_prefix_cons, List.length_cons, List.drop_succ_cons]
      by_cases hx : x = c
      · simp [hx, Nat.add_right_comm, Nat.add_assoc]
      · simp [hx, Ne.symm hx]

/-! ## A greedy repeat before an end -/

/-- When no count below `n` lets the tail match, the loop from `n` tries `n` alone. -/
theorem repeatLoop_of_none_below {α : Type} {tail : Nat → Option α} {lo n : Nat}
    (h : ∀ k < n, tail k = none) : repeatLoop tail lo n = if lo ≤ n then tail n else none := by
  induction n with
  | zero => simp [repeatLoop]
  | succ n ih =>
    rw [repeatLoop, ih fun k hk => h k (by omega), h n (by omega), ite_self]
    cases tail (n + 1) <;> rfl

/-- Every position inside the longest run of `p` starts with a member of `p`. -/
theorem drop_of_lt_takeWhile {p : Char → Bool} {s : List Char} {k : Nat}
    (hk : k < (s.takeWhile p).length) : ∃ c u, s.drop k = c :: u ∧ p c = true := by
  have hs := List.takeWhile_append_dropWhile p s
  refine ⟨(s.takeWhile p)[k], (s.takeWhile p).drop (k + 1) ++ s.dropWhile p, ?_,
    List.mem_takeWhile_imp (List.getElem_mem hk)⟩
  conv_lhs => rw [← hs]
  rw [List.drop_append_of_le_length hk.le, List.drop_eq_getElem_cons hk, List.cons_append]

/-- A tail that fails on every rest of the subject that starts with a member of
the set: what follows a greedy repeat that must reach an end. -/
def FailsOnSet (items : List SetItem) (ops : List Op) : Prop :=
  ∀ pos c u m, inSet items c = true → sreMatch ops pos (c :: u) m = none

theorem failsOnSet_AT_END {items : List SetItem} (hn : inSet items '\n' = false) :
    FailsOnSet items [.AT_END] := by
  intro pos c u m hc
  have : c ≠ '\n' := fun h => by simp_all
  simp [sreMatch_AT_END, IsEnd, this]

theorem FailsOnSet.MARK {items : List SetItem} {ops : List Op} (h : FailsOnSet items ops) (n : Nat) :
    FailsOnSet items (.MARK n :: ops) := by
  intro pos c u m hc
  rw [sreMatch_MARK]
  exact h _ _ _ _ hc

/-- A greedy `REPEAT_ONE` whose tail cannot start on a member of the set matches
exactly the longest run, when that run fits `min` and `max`. -/
theorem sreMatch_REPEAT_ONE_greedy {items : List SetItem} {lo : Nat} {hi : Option Nat}
    {ops : List Op} (hops : FailsOnSet items ops) (pos : Nat) (s : List Char) (m : Marks) :
    sreMatch (.REPEAT_ONE items lo hi :: ops) pos s m =
      if lo ≤ (s.takeWhile (inSet items)).length ∧ hi.all ((s.takeWhile (inSet items)).length ≤ ·)
      then sreMatch ops (pos + (s.takeWhile (inSet items)).length)
        (s.drop (s.takeWhile (inSet items)).length) m
      else none := by
  set L := (s.takeWhile (inSet items)).length
  have below : ∀ k < L, sreMatch ops (pos + k) (s.drop k) m = none := by
    intro k hk
    obtain ⟨c, u, hcu, hc⟩ := drop_of_lt_takeWhile hk
    rw [hcu]
    exact hops _ _ _ _ hc
  rw [sreMatch_REPEAT_ONE]
  cases hi with
  | none =>
    simp only [sreCount, repeatLoop_of_none_below below, Option.all_none, and_true]
  | some k =>
    by_cases hkL : L ≤ k
    · simp only [sreCount, Nat.min_eq_right hkL, repeatLoop_of_none_below below, Option.all_some,
        decide_eq_true hkL, and_true]
    · have hk : min k L = k := Nat.min_eq_left (by omega)
      have hloop := @repeatLoop_of_none_below _ (fun j => sreMatch ops (pos + j) (s.drop j) m) lo k
        fun j hj => below j (by omega)
      simp only [sreCount, hk, hloop, below k (by omega), Option.all_some, ite_self]
      simp [hkL]

/-! ## Runs that reach an end -/

/-- A run of `p` followed by an end is the longest run of `p`, when `p` fails on a
newline. -/
theorem takeWhile_append_end {p : Char → Bool} (hn : p '\n' = false) {w t : List Char}
    (hw : ∀ c ∈ w, p c = true) (ht : IsEnd t) : (w ++ t).takeWhile p = w := by
  rw [List.takeWhile_append_of_pos hw]
  rcases ht with rfl | rfl <;> simp [hn]

theorem take_length_takeWhile (p : Char → Bool) (l : List Char) :
    l.take (l.takeWhile p).length = l.takeWhile p :=
  (List.prefix_iff_eq_take.mp (List.takeWhile_prefix p)).symm

/-- A subject whose longest run of `p` is followed by an end is a run of `p` and an
end, and the other way round. -/
theorem run_end_iff {p : Char → Bool} (hn : p '\n' = false) (s : List Char) (Q : List Char → Prop) :
    (Q (s.takeWhile p) ∧ IsEnd (s.drop (s.takeWhile p).length)) ↔
      ∃ w t, s = w ++ t ∧ ((∀ c ∈ w, p c = true) ∧ Q w) ∧ IsEnd t := by
  constructor
  · rintro ⟨hq, he⟩
    refine ⟨_, _, ?_, ⟨fun c hc => List.mem_takeWhile_imp hc, hq⟩, he⟩
    conv_lhs => rw [← List.take_append_drop (s.takeWhile p).length s, take_length_takeWhile]
  · rintro ⟨w, t, rfl, ⟨hw, hq⟩, ht⟩
    rw [takeWhile_append_end hn hw ht, List.drop_left]
    exact ⟨hq, ht⟩

/-- A subject that is a text and an end, read on strings: the text alone, or the
text and a final newline. -/
theorem exists_end_iff {s : String} {P : List Char → Prop} :
    (∃ w t, s.toList = w ++ t ∧ P w ∧ IsEnd t) ↔
      ∃ base : String, (s = base ∨ s = base ++ "\n") ∧ P base.toList := by
  constructor
  · rintro ⟨w, t, hs, hw, rfl | rfl⟩
    · exact ⟨⟨w⟩, .inl (String.ext (by simpa using hs)), hw⟩
    · exact ⟨⟨w⟩, .inr (String.ext hs), hw⟩
  · rintro ⟨base, rfl | rfl, hb⟩
    · exact ⟨_, [], (List.append_nil _).symm, hb, .inl rfl⟩
    · exact ⟨_, ['\n'], rfl, hb, .inr rfl⟩

/-! ## The law of `^[set]{lo,hi}$` -/

/-- `^[set]{lo,hi}$`, for a set with no newline, matches exactly the subjects that
are a run of the set of between `lo` and `hi` characters, alone or before a final
newline. -/
theorem reMatch_run_isSome {items : List SetItem} (hn : inSet items '\n' = false) (lo : Nat)
    (hi : Option Nat) (s : String) :
    (reMatch ⟨[.AT_BEGINNING, .REPEAT_ONE items lo hi, .AT_END]⟩ s).isSome ↔
      ∃ w t, s.toList = w ++ t ∧
        ((∀ c ∈ w, inSet items c = true) ∧ lo ≤ w.length ∧ hi.all (w.length ≤ ·)) ∧ IsEnd t := by
  rw [← run_end_iff hn s.toList fun w => lo ≤ w.length ∧ hi.all (w.length ≤ ·)]
  simp only [reMatch, Option.isSome_map, sreMatch_AT_BEGINNING, if_true,
    sreMatch_REPEAT_ONE_greedy (failsOnSet_AT_END hn), sreMatch_AT_END, sreMatch_nil]
  split_ifs <;> simp_all

end ganeti.constants
