import ReleaseNotes.Text.Uppercase

namespace ReleaseNotes

/-! A letter and its code say the same. -/

theorem Letter.code_ofCode {n : Nat} (h : n < 0x110000) : (Letter.ofCode n).code = n := by
  unfold ofCode
  split
  · rfl
  · rename_i houtside
    have hvalid : n.isValidChar := by
      show n < 0xD800 ∨ 0xDFFF < n ∧ n < 0x110000
      omega
    show (Char.ofNat n).toNat = n
    rw [Char.ofNat, dif_pos hvalid]
    rfl

theorem Letter.ofCode_code (letter : Letter) : Letter.ofCode letter.code = letter := by
  cases letter with
  | char c =>
      have hvalid : c.toNat < 0xD800 ∨ 0xDFFF < c.toNat ∧ c.toNat < 0x110000 := c.valid
      have houtside : ¬ (0xD800 ≤ c.toNat ∧ c.toNat ≤ 0xDFFF) := by omega
      rw [code, ofCode, dif_neg houtside, Char.ofNat_toNat]
  | surrogate half => rw [code, ofCode, dif_pos half.bounds]

namespace Text

theorem eq_char_of_code {c : Letter} {d : Char} (h : c.code = d.toNat) : c = Letter.char d := by
  cases c with
  | char c => exact congrArg Letter.char (Char.toNat_inj.mp h)
  | surrogate half =>
      obtain ⟨hlow, hhigh⟩ := half.bounds
      have hcode : half.code = d.toNat := h
      have hvalid : d.toNat < 0xD800 ∨ 0xDFFF < d.toNat ∧ d.toNat < 0x110000 := d.valid
      omega

/-!
What the table of capitals says. A letter without an entry is its own capital, and so is the first
letter of every capital; no capital ends a line.
-/

theorem CapitalRun.covers_iff {run : CapitalRun} {n : Nat} :
    run.covers n = true ↔ run.first ≤ n ∧ n ≤ run.last ∧ (n - run.first) % run.step = 0 := by
  simp [covers, and_assoc]

/-- The capitals of the one run are no letters of the other: they lie apart, or they alternate. -/
def CapitalRun.avoids (run other : CapitalRun) : Bool :=
  Nat.blt (run.capital run.last) other.first || Nat.blt other.last run.image ||
    other.step == 2 && (run.step == 2 || run.first == run.last) &&
      (run.image + other.first) % 2 == 1

theorem CapitalRun.covers_capital_eq_false {run other : CapitalRun} {n : Nat}
    (havoids : run.avoids other = true) (h : run.covers n = true) :
    other.covers (run.capital n) = false := by
  rw [Bool.eq_false_iff]
  intro hother
  obtain ⟨hfirst, hlast, hstep⟩ := covers_iff.mp h
  obtain ⟨hbelow, habove, halternate⟩ := covers_iff.mp hother
  simp only [avoids, Bool.or_eq_true, Bool.and_eq_true, beq_iff_eq, Nat.blt_eq] at havoids
  simp only [capital] at havoids hbelow habove halternate
  rcases havoids with (hlow | hhigh) | ⟨⟨htwo, hsteps⟩, hodd⟩
  · omega
  · omega
  · rw [htwo] at halternate
    rcases hsteps with hrun | hsingle
    · rw [hrun] at hstep
      omega
    · omega

/-- The code of a letter that ends no line. -/
def IsInline (n : Nat) : Prop :=
  13 < n ∧ (n < 0x2028 ∨ 0x2029 < n) ∧ n < 0x110000

instance : DecidablePred IsInline := fun n =>
  inferInstanceAs (Decidable (13 < n ∧ (n < 0x2028 ∨ 0x2029 < n) ∧ n < 0x110000))

theorem runs_avoid_runs :
    (capitalRuns.all fun run => capitalRuns.all run.avoids) = true := by
  decide +kernel

theorem runs_avoid_long :
    (capitalRuns.all fun run => longCapitals.all fun entry =>
      Nat.blt (run.capital run.last) entry.1 || Nat.blt entry.1 run.image) = true := by
  decide +kernel

theorem runs_inline : ∀ run ∈ capitalRuns,
    13 < run.image ∧ (run.capital run.last < 0x2028 ∨ 0x2029 < run.image) ∧
      run.capital run.last < 0x110000 := by
  decide +kernel

theorem long_inline : ∀ entry ∈ longCapitals, ∀ code ∈ entry.2, IsInline code := by
  decide +kernel

theorem exists_long_first : ∀ entry ∈ longCapitals,
    ∃ first ∈ entry.2.head?, capitalCodes first = [first] := by
  decide +kernel

theorem capitalCodes_cases (n : Nat) :
    (∃ run ∈ capitalRuns, run.covers n = true ∧ capitalCodes n = [run.capital n]) ∨
      (∃ entry ∈ longCapitals, capitalCodes n = entry.2) ∨ capitalCodes n = [n] := by
  unfold capitalCodes
  split
  · rename_i run hrun
    have hcovers : run.covers n = true :=
      List.find?_some (p := fun run : CapitalRun => run.covers n) hrun
    exact .inl ⟨run, List.mem_of_find?_eq_some hrun, hcovers, rfl⟩
  · cases hlong : longCapitals.lookup n with
    | none => exact .inr (.inr rfl)
    | some codes =>
        obtain ⟨before, after, heq, _⟩ := List.lookup_eq_some_iff.mp hlong
        exact .inr (.inl ⟨(n, codes), heq ▸ List.mem_append_right before List.mem_cons_self, rfl⟩)

theorem capitalCodes_capital {run : CapitalRun} {n : Nat} (hrun : run ∈ capitalRuns)
    (h : run.covers n = true) : capitalCodes (run.capital n) = [run.capital n] := by
  obtain ⟨hfirst, hlast, _⟩ := CapitalRun.covers_iff.mp h
  have hruns : capitalRuns.find? (·.covers (run.capital n)) = none := by
    apply List.find?_eq_none.mpr
    intro other hother
    have havoids := List.all_eq_true.mp (List.all_eq_true.mp runs_avoid_runs run hrun) other hother
    rw [CapitalRun.covers_capital_eq_false havoids h]
    exact Bool.false_ne_true
  have hlong : longCapitals.lookup (run.capital n) = none := by
    apply List.lookup_eq_none_iff.mpr
    intro entry hentry
    have hapart := List.all_eq_true.mp (List.all_eq_true.mp runs_avoid_long run hrun) entry hentry
    simp only [Bool.or_eq_true, Nat.blt_eq, CapitalRun.capital] at hapart
    simp only [CapitalRun.capital, bne_iff_ne, ne_eq]
    omega
  rw [capitalCodes, hruns, hlong]
  rfl

theorem inline_of_mem_capitalCodes {n code : Nat} (h : code ∈ capitalCodes n) :
    code = n ∨ IsInline code := by
  obtain ⟨run, hrun, hcovers, heq⟩ | ⟨entry, hentry, heq⟩ | heq := capitalCodes_cases n
  · obtain ⟨hfirst, hlast, _⟩ := CapitalRun.covers_iff.mp hcovers
    obtain ⟨hlow, hbreak, hhigh⟩ := runs_inline run hrun
    rw [heq, List.mem_singleton] at h
    right
    unfold IsInline
    simp only [CapitalRun.capital] at h hbreak hhigh
    omega
  · rw [heq] at h
    exact .inr (long_inline entry hentry code h)
  · rw [heq, List.mem_singleton] at h
    exact .inl h

theorem exists_first_of_capitalCodes (n : Nat) :
    ∃ first rest, capitalCodes n = first :: rest ∧ capitalCodes first = [first] := by
  obtain ⟨run, hrun, hcovers, heq⟩ | ⟨entry, hentry, heq⟩ | heq := capitalCodes_cases n
  · exact ⟨_, [], heq, capitalCodes_capital hrun hcovers⟩
  · obtain ⟨first, hfirst, hcapital⟩ := exists_long_first entry hentry
    obtain ⟨rest, hrest⟩ := List.head?_eq_some_iff.mp hfirst
    exact ⟨first, rest, heq.trans hrest, hcapital⟩
  · exact ⟨n, [], heq, heq⟩

/-! What follows for letters. -/

theorem code_of_isLineBreak {c : Letter} (h : isLineBreak c = true) : ¬ IsInline c.code := by
  simp only [isLineBreak, Bool.or_eq_true, beq_iff_eq] at h
  rcases h with ((rfl | rfl) | rfl) | rfl <;> decide

/-- A capital brings no letter that ends a line. -/
theorem eq_or_inline_of_mem_capital {c d : Letter} (h : d ∈ capital c) :
    d = c ∨ isLineBreak d = false := by
  obtain ⟨code, hcode, rfl⟩ := List.mem_map.mp h
  obtain rfl | hinline := inline_of_mem_capitalCodes hcode
  · exact .inl (Letter.ofCode_code c)
  · right
    rw [Bool.eq_false_iff]
    intro hbreak
    apply code_of_isLineBreak hbreak
    rw [Letter.code_ofCode hinline.2.2]
    exact hinline

theorem exists_first_of_capital (c : Letter) :
    ∃ first rest, capital c = first :: rest ∧ capital first = [first] := by
  obtain ⟨code, codes, hcodes, hcode⟩ := exists_first_of_capitalCodes c.code
  have hsame : (Letter.ofCode code).code = code := by
    have hmem : code ∈ capitalCodes c.code := hcodes ▸ List.mem_cons_self
    obtain rfl | hinline := inline_of_mem_capitalCodes hmem
    · rw [Letter.ofCode_code]
    · exact Letter.code_ofCode hinline.2.2
  refine ⟨.ofCode code, codes.map .ofCode, ?_, ?_⟩
  · rw [capital, hcodes, List.map_cons]
  · rw [capital, hsame, hcode, List.map_singleton]

theorem mem_capitalizeFirst {text : Text} {d : Letter} (h : d ∈ capitalizeFirst text) :
    d ∈ text ∨ isLineBreak d = false := by
  cases text with
  | nil => exact .inl h
  | cons c text =>
      rw [capitalizeFirst, List.mem_append] at h
      cases h with
      | inl hcapital =>
          cases eq_or_inline_of_mem_capital hcapital with
          | inl heq => exact .inl (heq ▸ List.mem_cons_self)
          | inr hinline => exact .inr hinline
      | inr hrest => exact .inl (List.mem_cons_of_mem c hrest)

theorem capitalizeFirst_ne_nil {text : Text} (h : text ≠ []) : capitalizeFirst text ≠ [] := by
  obtain ⟨c, text, rfl⟩ := List.exists_cons_of_ne_nil h
  obtain ⟨first, rest, hcapital, _⟩ := exists_first_of_capital c
  rw [capitalizeFirst, hcapital]
  exact List.cons_ne_nil _ _

theorem capitalizeFirst_capitalizeFirst (text : Text) :
    capitalizeFirst (capitalizeFirst text) = capitalizeFirst text := by
  cases text with
  | nil => rfl
  | cons c text =>
      obtain ⟨first, rest, hcapital, hfirst⟩ := exists_first_of_capital c
      rw [capitalizeFirst, hcapital, List.cons_append, capitalizeFirst, hfirst, List.singleton_append]

end Text

end ReleaseNotes
