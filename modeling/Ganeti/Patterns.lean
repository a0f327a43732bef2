-- The laws of the patterns of `constants.py`, for every subject: the names
-- `EXT_PLUGIN_MASK` lets run, the magics `IE_MAGIC_RE` accepts, and the job files
-- `JOB_FILE_RE` reads with the job id they name. Python's `$` also lets each
-- of them end in one newline.
import Ganeti.Sre
import Ganeti.SshCommand

namespace ganeti.constants

/-! ## The patterns -/

def IE_MAGIC_RE : Option Pattern := compile "^[-_.a-zA-Z0-9]{5,100}$"

def EXT_PLUGIN_MASK : Option Pattern := compile "^[a-zA-Z0-9_-]+$"

def JOB_ID_TEMPLATE : String := "\\d+"

/-- `re.compile(r"^job-(%s)$" % JOB_ID_TEMPLATE)`. -/
def JOB_FILE_RE : Option Pattern := (pyFormat "^job-(%s)$" [JOB_ID_TEMPLATE]).bind compile

/-! ## What they compile to -/

theorem IE_MAGIC_RE_eq :
    ∃ items, IE_MAGIC_RE = some ⟨[.AT_BEGINNING, .REPEAT_ONE items 5 (some 100), .AT_END]⟩ ∧
      ∀ c, inSet items c = (c.isAlphanum || c == '-' || c == '_' || c == '.') := by
  refine ⟨[.LITERAL '-', .LITERAL '_', .LITERAL '.', .RANGE 'a' 'z', .RANGE 'A' 'Z', .RANGE '0' '9'],
    by decide, fun c => ?_⟩
  simp only [inSet, List.any_cons, List.any_nil, SetItem.contains_LITERAL, SetItem.contains_a_z,
    SetItem.contains_A_Z, SetItem.contains_0_9, Char.isAlphanum, Char.isAlpha, Bool.or_false]
  ac_rfl

theorem EXT_PLUGIN_MASK_eq :
    ∃ items, EXT_PLUGIN_MASK = some ⟨[.AT_BEGINNING, .REPEAT_ONE items 1 none, .AT_END]⟩ ∧
      ∀ c, inSet items c = (c.isAlphanum || c == '_' || c == '-') := by
  refine ⟨[.RANGE 'a' 'z', .RANGE 'A' 'Z', .RANGE '0' '9', .LITERAL '_', .LITERAL '-'], by decide,
    fun c => ?_⟩
  simp only [inSet, List.any_cons, List.any_nil, SetItem.contains_LITERAL, SetItem.contains_a_z,
    SetItem.contains_A_Z, SetItem.contains_0_9, Char.isAlphanum, Char.isAlpha, Bool.or_false]
  ac_rfl

/-- The `%` leaves `(\d+)`: the job id is group 1, a run of digits. -/
theorem JOB_FILE_RE_eq :
    JOB_FILE_RE = some ⟨.AT_BEGINNING :: "job-".toList.map .LITERAL ++
      [.MARK 0, .REPEAT_ONE [.CATEGORY_DIGIT] 1 none, .MARK 1, .AT_END]⟩ := by
  decide

/-! ## The laws -/

theorem one_le_length_toList {s : String} : 1 ≤ s.toList.length ↔ s ≠ "" := by
  rw [Nat.one_le_iff_ne_zero, Ne, List.length_eq_zero, Ne, String.ext_iff]
  rfl

/-- `IE_MAGIC_RE` compiles, and accepts a magic exactly when it is 5 to 100 ASCII
letters, digits, `-`, `_` and `.`, alone or before one final newline. -/
theorem ie_magic_re_match :
    ∃ p, IE_MAGIC_RE = some p ∧ ∀ magic : String, (reMatch p magic).isSome ↔
      ∃ base : String, (magic = base ∨ magic = base ++ "\n") ∧
        5 ≤ base.length ∧ base.length ≤ 100 ∧
        ∀ c ∈ base.toList, c.isAlphanum ∨ c = '-' ∨ c = '_' ∨ c = '.' := by
  obtain ⟨items, hp, hset⟩ := IE_MAGIC_RE_eq
  refine ⟨_, hp, fun magic => ?_⟩
  rw [reMatch_run_isSome (by rw [hset]; rfl), exists_end_iff]
  refine exists_congr fun base => and_congr_right fun _ => ?_
  simp only [hset, Bool.or_eq_true, beq_iff_eq, or_assoc, Option.all_some, decide_eq_true_eq,
    String.length, String.toList]
  exact and_rotate

/-- `EXT_PLUGIN_MASK` compiles, and lets a name run exactly when the name is a
non-empty run of ASCII letters, digits, `_` and `-`, alone or before one final
newline: no name it lets run holds a `/`, a `.` or a blank. -/
theorem ext_plugin_mask_match :
    ∃ p, EXT_PLUGIN_MASK = some p ∧ ∀ name : String, (reMatch p name).isSome ↔
      ∃ base : String, (name = base ∨ name = base ++ "\n") ∧ base ≠ "" ∧
        ∀ c ∈ base.toList, c.isAlphanum ∨ c = '_' ∨ c = '-' := by
  obtain ⟨items, hp, hset⟩ := EXT_PLUGIN_MASK_eq
  refine ⟨_, hp, fun name => ?_⟩
  rw [reMatch_run_isSome (by rw [hset]; rfl), exists_end_iff]
  refine exists_congr fun base => and_congr_right fun _ => ?_
  simp only [hset, Bool.or_eq_true, beq_iff_eq, or_assoc, Option.all_none, and_true,
    one_le_length_toList]
  exact and_comm

/-- The job-file pattern on a name: `job-`, then the longest run of digits, which
must not be empty and must reach an end; group 1 is marked around the run. -/
theorem reMatch_JOB_FILE_RE {p : Pattern} (hp : JOB_FILE_RE = some p) (name : String) :
    reMatch p name =
      let rest := name.toList.drop 4
      let L := (rest.takeWhile Char.isDigit).length
      if "job-".toList <+: name.toList ∧ 1 ≤ L ∧ IsEnd (rest.drop L) then
        some ⟨name.toList, [(1, 4 + L), (0, 4)]⟩
      else none := by
  rw [JOB_FILE_RE_eq, Option.some_inj] at hp
  subst hp
  have h4 : "job-".toList.length = 4 := rfl
  have hf : FailsOnSet [.CATEGORY_DIGIT] [.MARK 1, .AT_END] := (failsOnSet_AT_END (by decide)).MARK 1
  simp only [reMatch, sreMatch_AT_BEGINNING, if_true, List.cons_append, sreMatch_LITERALs, h4,
    sreMatch_MARK, sreMatch_REPEAT_ONE_greedy hf, sreMatch_AT_END, sreMatch_nil, inSet_CATEGORY_DIGIT,
    Option.all_none, and_true, Nat.zero_add, ite_and, apply_ite (Option.map _), Option.map_some',
    Option.map_none']

/-- Group 1 of the job-file pattern's match. -/
theorem group_one (s : List Char) (L : Nat) :
    (⟨s, [(1, 4 + L), (0, 4)]⟩ : Match).group 1 = some ⟨(s.drop 4).take L⟩ := by
  show some (String.mk (List.take (4 + L - 4) (List.drop 4 s))) = _
  rw [Nat.add_sub_cancel_left]

/-- The name of the file of job `id`: `job-` and the id, a non-empty run of digits;
with Python's `$`, also that name and a final newline. -/
def JobFileName (name id : String) : Prop :=
  id ≠ "" ∧ (∀ c ∈ id.toList, c.isDigit) ∧ (name = "job-" ++ id ∨ name = "job-" ++ id ++ "\n")

theorem jobFileName_iff {name id : String} :
    JobFileName name id ↔ id ≠ "" ∧ (∀ c ∈ id.toList, c.isDigit) ∧
      ∃ t, name.toList = "job-".toList ++ id.toList ++ t ∧ IsEnd t := by
  refine and_congr_right fun _ => and_congr_right fun _ => ?_
  constructor
  · rintro (rfl | rfl)
    · exact ⟨[], by simp, .inl rfl⟩
    · exact ⟨['\n'], rfl, .inr rfl⟩
  · rintro ⟨t, hs, rfl | rfl⟩
    · exact .inl (String.ext (by simpa using hs))
    · exact .inr (String.ext hs)

/-- On a job file's name the pattern reads `job-`, then the id and an end. -/
theorem job_cond_of_name {name id : String} (h : JobFileName name id) :
    ("job-".toList <+: name.toList ∧ 1 ≤ ((name.toList.drop 4).takeWhile Char.isDigit).length ∧
      IsEnd ((name.toList.drop 4).drop ((name.toList.drop 4).takeWhile Char.isDigit).length)) ∧
      (name.toList.drop 4).takeWhile Char.isDigit = id.toList := by
  obtain ⟨hne, hdig, t, hs, ht⟩ := jobFileName_iff.mp h
  have hrest : name.toList.drop 4 = id.toList ++ t := by
    rw [hs, List.append_assoc]
    exact List.drop_left' rfl
  have htw := takeWhile_append_end (by decide) hdig ht
  rw [hrest, htw, List.drop_left]
  exact ⟨⟨hs ▸ List.append_assoc _ _ _ ▸ List.prefix_append _ _, one_le_length_toList.mpr hne, ht⟩, rfl⟩

/-- The pattern's reading of a name is a job file's name, for the id it reads. -/
theorem jobFileName_of_cond {name : String}
    (h : "job-".toList <+: name.toList ∧ 1 ≤ ((name.toList.drop 4).takeWhile Char.isDigit).length ∧
      IsEnd ((name.toList.drop 4).drop ((name.toList.drop 4).takeWhile Char.isDigit).length)) :
    JobFileName name ⟨(name.toList.drop 4).takeWhile Char.isDigit⟩ := by
  obtain ⟨hA, hB, hC⟩ := h
  refine jobFileName_iff.mpr ⟨one_le_length_toList.mp hB, fun c hc => List.mem_takeWhile_imp hc, _, ?_, hC⟩
  have hs : "job-".toList ++ name.toList.drop 4 = name.toList := List.prefix_iff_eq_append.mp hA
  conv_lhs => rw [← hs]
  rw [List.append_assoc]
  congr 1
  conv_lhs => rw [← List.take_append_drop ((name.toList.drop 4).takeWhile Char.isDigit).length
    (name.toList.drop 4), take_length_takeWhile]
  rfl

/-- `JOB_FILE_RE` compiles, matches exactly the names of job files, and its group 1
is the job id that the name holds. -/
theorem job_file_re_match :
    ∃ p, JOB_FILE_RE = some p ∧ ∀ name : String,
      ((reMatch p name).isSome ↔ ∃ id, JobFileName name id) ∧
      ∀ id, (reMatch p name).bind (·.group 1) = some id ↔ JobFileName name id := by
  refine ⟨_, JOB_FILE_RE_eq, fun name => ?_⟩
  rw [reMatch_JOB_FILE_RE JOB_FILE_RE_eq]
  dsimp only
  split_ifs with h
  · simp only [Option.isSome_some, Option.some_bind, group_one, take_length_takeWhile, Option.some_inj, true_iff]
    refine ⟨⟨_, jobFileName_of_cond h⟩, fun id => ⟨?_, fun hid => ?_⟩⟩
    · rintro rfl
      exact jobFileName_of_cond h
    · rw [(job_cond_of_name hid).2]
      rfl
  · have hno : ∀ id, ¬JobFileName name id := fun id hid => h (job_cond_of_name hid).1
    simp [hno]

end ganeti.constants

