import Mathlib.Data.List.TakeWhile
import Bluewave.Lib.PrefixCode
import Bluewave.Schema

/-! What `validate_columns` lets pass: the expected columns and no others, each with its type up
to letter case, blanks around it and one display width. -/
namespace Bluewave.ColumnDrift
open Lib Bluewave.Auth Bluewave.Numerals Bluewave.Schema

/-- One or more digits in parentheses, then `rest`. -/
def Width (cs rest : List Char) : Prop :=
  ∃ digits, digits ≠ [] ∧ (∀ d ∈ digits, (decimal? d).isSome = true) ∧
    cs = '(' :: (digits ++ ')' :: rest)

/-- `s` is `t` with a display width directly after its integer base type. -/
def Widened (s t : List Char) : Prop :=
  ∃ base ∈ intTypesWithWidth, ∃ cs rest, Width cs rest ∧ s = base.toList ++ cs ∧
    t = base.toList ++ rest

/-- The expected type, up to letter case, blanks around it and a display width; `longtext` for
`json`. -/
def TypeAgrees (expected actual : String) : Prop :=
  strip (lower actual) = expected ∨ Widened (strip (lower actual)).toList expected.toList ∨
    expected = "json" ∧ strip (lower actual) = "longtext"

structure ColumnConforms (spec : ColumnSpec) (r : ColumnRow) : Prop where
  type : TypeAgrees spec.columnType r.columnType
  nullable : r.isNullable = spec.isNullable
  charset : spec.hasCharset = true →
    r.characterSetName = some expectedCharset ∧ r.collationName = some expectedCollation
  extra : spec.extra.toList <:+: (lower (r.extra.getD "")).toList

/-- The twelve columns, each as expected. -/
structure Conforms (rows : List ColumnRow) : Prop where
  names : ∀ name, name ∈ rows.map ColumnRow.columnName ↔ name ∈ expectedColumns.map Prod.fst
  columns : ∀ c ∈ expectedColumns, ∀ r ∈ rows, r.columnName = c.1 → ColumnConforms c.2 r

/-! ## Display widths -/

theorem afterWidth?_eq_some {cs rest : List Char} : afterWidth? cs = some rest ↔ Width cs rest := by
  constructor
  · intro h
    unfold afterWidth? at h
    split at h
    · rename_i cs
      split at h
      · rename_i d ds rest' htake hdrop
        cases h
        refine ⟨d :: ds, List.cons_ne_nil _ _, fun x hx => ?_, ?_⟩
        · rw [← htake] at hx
          exact List.mem_takeWhile_imp (p := fun c => (decimal? c).isSome) hx
        · rw [← htake, ← hdrop, List.takeWhile_append_dropWhile]
      · cases h
    · cases h
  · intro h
    obtain ⟨digits, hne, hdigits, rfl⟩ := h
    obtain ⟨d, ds, rfl⟩ := List.exists_cons_of_ne_nil hne
    have hclose : ¬ (decimal? ')').isSome = true := by decide
    have htake : (d :: ds ++ ')' :: rest).takeWhile (fun c => (decimal? c).isSome) = d :: ds := by
      rw [List.takeWhile_append_of_pos hdigits, List.takeWhile_cons_of_neg (by simpa using hclose),
        List.append_nil]
    have hdrop : (d :: ds ++ ')' :: rest).dropWhile (fun c => (decimal? c).isSome) =
        ')' :: rest := by
      rw [List.dropWhile_append_of_pos hdigits, List.dropWhile_cons_of_neg (by simpa using hclose)]
    simp only [afterWidth?, htake, hdrop]

/-- A type has at most one reading with a width. -/
theorem Widened.unique {s t t' : List Char} (h : Widened s t) (h' : Widened s t') : t = t' := by
  obtain ⟨base, hbase, cs, rest, ⟨digits, -, hdigits, rfl⟩, rfl, rfl⟩ := h
  obtain ⟨base', hbase', cs', rest', ⟨digits', -, hdigits', rfl⟩, heq, rfl⟩ := h'
  have hopen : ∀ base ∈ intTypesWithWidth, '(' ∉ base.toList := by decide
  have hclose : ¬ (decimal? ')').isSome = true := by decide
  obtain ⟨hname, htail⟩ := cut_inj (hopen base hbase) (hopen base' hbase') heq
  obtain ⟨-, hrest⟩ := cut_inj (fun h => hclose (hdigits _ h)) (fun h => hclose (hdigits' _ h)) htail
  rw [hname, hrest]

/-- A width goes, and nothing else does. -/
theorem stripIntWidth_eq {s t : List Char} :
    stripIntWidth s = t ↔ Widened s t ∨ (¬ ∃ u, Widened s u) ∧ s = t := by
  have hstep (base : String) (u : List Char) : (if base.toList <+: s then
      (afterWidth? (s.drop base.toList.length)).map (base.toList ++ ·) else none) = some u ↔
      ∃ cs rest, Width cs rest ∧ s = base.toList ++ cs ∧ u = base.toList ++ rest := by
    split
    · rename_i hprefix
      obtain ⟨cs, rfl⟩ := hprefix
      rw [List.drop_left, Option.map_eq_some_iff]
      simp only [afterWidth?_eq_some, List.append_cancel_left_eq]
      constructor
      · intro h
        obtain ⟨rest, hwidth, rfl⟩ := h
        exact ⟨cs, rest, hwidth, rfl, rfl⟩
      · intro h
        obtain ⟨_, rest, hwidth, rfl, rfl⟩ := h
        exact ⟨rest, hwidth, rfl⟩
    · rename_i hprefix
      refine iff_of_false (by simp) ?_
      intro h
      obtain ⟨cs, rest, -, rfl, -⟩ := h
      exact hprefix (List.prefix_append _ _)
  unfold stripIntWidth
  cases hfind : intTypesWithWidth.findSome? fun base =>
      if base.toList <+: s then (afterWidth? (s.drop base.toList.length)).map (base.toList ++ ·)
      else none with
  | some u =>
    obtain ⟨base, hbase, hu⟩ := List.exists_of_findSome?_eq_some hfind
    have hwidened : Widened s u := ⟨base, hbase, (hstep base u).mp hu⟩
    rw [Option.getD_some]
    constructor
    · intro h
      exact .inl (h ▸ hwidened)
    · intro h
      rcases h with h | ⟨h, -⟩
      · exact hwidened.unique h
      · exact absurd ⟨u, hwidened⟩ h
  | none =>
    have hnone : ¬ ∃ u, Widened s u := by
      intro h
      obtain ⟨u, base, hbase, hu⟩ := h
      have := List.findSome?_eq_none_iff.mp hfind base hbase
      rw [(hstep base u).mpr hu] at this
      cases this
    rw [Option.getD_none]
    constructor
    · intro h
      exact .inr ⟨hnone, h⟩
    · intro h
      rcases h with h | ⟨-, h⟩
      · exact absurd ⟨t, h⟩ hnone
      · exact h

/-! ## Types -/

theorem lower_lower (s : String) : lower (lower s) = lower s := by
  have hchar (c : Char) : c.toLower.toLower = c.toLower := by
    unfold Char.toLower
    split
    · rename_i h
      -- the image of a capital is not one
      refine dif_neg fun hcapital => ?_
      have hlo : 'A'.val.toNat ≤ c.val.toNat := UInt32.le_iff_toNat_le.mp h.1
      have hhi : c.val.toNat ≤ 'Z'.val.toNat := UInt32.le_iff_toNat_le.mp h.2
      have hle := UInt32.le_iff_toNat_le.mp hcapital.2
      rw [UInt32.toNat_add] at hle
      change 65 ≤ c.val.toNat at hlo
      change c.val.toNat ≤ 90 at hhi
      change (c.val.toNat + 32) % 2 ^ 32 ≤ 90 at hle
      omega
    · rfl
  simp only [lower, String.toList_ofList, List.map_map]
  congr 1
  exact List.map_congr_left fun c _ => hchar c

/-- A type the comparison takes as it stands: in lower case, without blanks around it or a
width, and not a `tinyint`. -/
def Plain (expected : String) : Prop :=
  strip (lower expected) = expected ∧ stripIntWidth expected.toList = expected.toList ∧
    ¬ "tinyint".toList <+: expected.toList

instance (expected : String) : Decidable (Plain expected) := inferInstanceAs (Decidable (_ ∧ _))

theorem expectedColumns_plain : ∀ c ∈ expectedColumns, Plain c.2.columnType := by decide

/-- The normal form of a type is a plain one exactly when it is that one, or that one with a
width. -/
theorem normalizeColumnType_eq {expected : String} (hplain : Plain expected) (actual : String) :
    normalizeColumnType actual = expected ↔
      strip (lower actual) = expected ∨ Widened (strip (lower actual)).toList expected.toList := by
  obtain ⟨-, hstrip, htiny⟩ := hplain
  simp only [normalizeColumnType]
  generalize strip (lower actual) = s
  split
  · rename_i hprefix
    obtain ⟨rest, hs⟩ := hprefix
    have hone : (decimal? '1').isSome = true := by decide
    have hwidth : Width ("(1)".toList ++ rest) rest :=
      ⟨['1'], List.cons_ne_nil _ _, fun d hd => List.mem_singleton.mp hd ▸ hone, rfl⟩
    have htinyint : Widened s.toList ("tinyint".toList ++ rest) :=
      ⟨"tinyint", by decide, _, rest, hwidth, hs.symm, rfl⟩
    refine ⟨.inl, fun h => h.resolve_right fun hwidened => htiny ?_⟩
    rw [hwidened.unique htinyint]
    exact List.prefix_append _ _
  · rw [← String.toList_inj, String.toList_ofList, stripIntWidth_eq]
    constructor
    · intro h
      rcases h with h | ⟨-, h⟩
      · exact .inr h
      · exact .inl (String.toList_inj.mp h)
    · intro h
      rcases h with h | h
      · rw [h]
        exact stripIntWidth_eq.mp hstrip
      · exact .inl h

theorem not_widened {s t : List Char} (h : ∀ base ∈ intTypesWithWidth, ¬ base.toList <+: t) :
    ¬ Widened s t := by
  intro h
  obtain ⟨base, hbase, cs, rest, -, -, rfl⟩ := h
  exact h base hbase (List.prefix_append _ _)

/-- The comparison of types is the agreement of types. -/
theorem typesMatch_iff {expected : String} (hplain : Plain expected) (actual : String) :
    typesMatch expected (lower actual) = true ↔ TypeAgrees expected actual := by
  have hnorm : normalizeColumnType (lower actual) = normalizeColumnType actual := by
    simp only [normalizeColumnType, lower_lower]
  simp only [typesMatch, hplain.1, hnorm, TypeAgrees]
  by_cases hjson : expected = "json"
  · subst hjson
    have hlong := @normalizeColumnType_eq "longtext" (by decide) actual
    have hnot := @not_widened (strip (lower actual)).toList "longtext".toList (by decide)
    rw [if_pos rfl, decide_eq_true_iff]
    simp only [jsonEquivalents, List.mem_cons, List.not_mem_nil, or_false,
      normalizeColumnType_eq hplain, hlong, hnot, true_and, or_assoc]
  · simp [hjson, normalizeColumnType_eq hplain]

/-- The types that pass for an expected one. -/
def Passes (expected actual : String) : Prop :=
  strip (lower actual) = expected ∨
    (expected = "bigint unsigned" ∧ ∃ digits, digits ≠ [] ∧
      (∀ d ∈ digits, (decimal? d).isSome = true) ∧
      (strip (lower actual)).toList = "bigint(".toList ++ digits ++ ") unsigned".toList) ∨
    (expected = "json" ∧ strip (lower actual) = "longtext")

/-- Only a `bigint unsigned` is expected where a width may come, so no other base type and no
other sign pass for it. -/
theorem passes_of_agrees : ∀ c ∈ expectedColumns, ∀ actual, TypeAgrees c.2.columnType actual →
    Passes c.2.columnType actual := by
  intro c hc actual h
  rcases h with hsame | hwidened | hlong
  · exact .inl hsame
  · obtain ⟨base, hbase, cs, rest, ⟨digits, hne, hdigits, rfl⟩, hs, he⟩ := hwidened
    have honly : ∀ c ∈ expectedColumns, ∀ base ∈ intTypesWithWidth,
        base.toList <+: c.2.columnType.toList → base = "bigint" ∧
          c.2.columnType = "bigint unsigned" := by decide
    obtain ⟨rfl, hexpected⟩ := honly c hc base hbase ⟨rest, he.symm⟩
    rw [hexpected] at he
    have hrest : " unsigned".toList = rest :=
      @List.append_cancel_left _ "bigint".toList _ _ (by rw [← he]; rfl)
    refine .inr (.inl ⟨hexpected, digits, hne, hdigits, ?_⟩)
    rw [hs, ← hrest]
    simp
  · exact .inr (.inr hlong)

/-! ## Columns -/

/-- The name of an expected column settles what is expected of it. -/
theorem lookup_expectedColumns : ∀ c ∈ expectedColumns,
    expectedColumns.lookup c.1 = some c.2 := by
  simp [expectedColumns, List.lookup_cons]

section
variable {repr : String → String} {rows rows' : List ColumnRow} {r : ColumnRow} {name : String}

theorem charsetDiffs_eq_nil {what hint : String} {cs co : Option String} :
    charsetDiffs repr what hint cs co = [] ↔
      cs = some expectedCharset ∧ co = some expectedCollation := by
  simp [charsetDiffs]

theorem check_eq_nil {p : Prop} [Decidable p] {diff : String} :
    (if p then [] else [diff]) = [] ↔ p := by
  split
  · rename_i hp
    exact iff_of_true rfl hp
  · rename_i hp
    exact iff_of_false (List.cons_ne_nil _ _) hp

/-- A column has no diffs exactly when it conforms. -/
theorem columnDiffs_eq_nil {spec : ColumnSpec} (hplain : Plain spec.columnType) :
    columnDiffs repr name spec r = [] ↔ ColumnConforms spec r := by
  have hextra : spec.extra = "" ∨ spec.extra.toList <:+: (lower (r.extra.getD "")).toList ↔
      spec.extra.toList <:+: (lower (r.extra.getD "")).toList := by
    refine or_iff_right_of_imp fun h => ?_
    rw [h]
    exact List.nil_infix
  simp only [columnDiffs, List.append_eq_nil_iff, check_eq_nil, typesMatch_iff hplain, hextra]
  constructor
  · intro h
    obtain ⟨⟨⟨htype, hnull⟩, hcharset⟩, hmark⟩ := h
    refine ⟨htype, hnull, fun hc => ?_, hmark⟩
    rw [if_pos hc] at hcharset
    exact charsetDiffs_eq_nil.mp hcharset
  · intro h
    refine ⟨⟨⟨h.type, h.nullable⟩, ?_⟩, h.extra⟩
    split
    · rename_i hc
      exact charsetDiffs_eq_nil.mpr (h.charset hc)
    · rfl

/-- Of rows with distinct names, `found` takes the one with the name. -/
theorem found_eq_some (hnodup : (rows.map ColumnRow.columnName).Nodup) :
    found rows name = some r ↔ r ∈ rows ∧ r.columnName = name := by
  constructor
  · intro h
    unfold found at h
    have hname := List.find?_some h
    exact ⟨List.mem_reverse.mp (List.mem_of_find?_eq_some h), of_decide_eq_true hname⟩
  · intro h
    obtain ⟨hr, rfl⟩ := h
    unfold found
    cases hfound : rows.reverse.find? fun row => row.columnName = r.columnName with
    | none =>
      have := List.find?_eq_none.mp hfound r (List.mem_reverse.mpr hr)
      simp at this
    | some r' =>
      have hname : r'.columnName = r.columnName := by simpa using List.find?_some hfound
      have hr' := List.mem_reverse.mp (List.mem_of_find?_eq_some hfound)
      rw [List.inj_on_of_nodup_map hnodup hr' hr hname]

/-- Names in order do not tell how they were given. -/
theorem sorted_perm {names names' : List String} (h : names.Perm names') :
    sorted names = sorted names' := by
  have : Std.Total (α := String) fun a b => a.toList ≤ b.toList :=
    ⟨fun a b => le_total a.toList b.toList⟩
  have : IsTrans String fun a b => a.toList ≤ b.toList :=
    ⟨fun _ _ _ hab hbc => le_trans hab hbc⟩
  refine List.Perm.eq_of_pairwise (fun a b _ _ hab hba => ?_)
    (List.pairwise_insertionSort (fun a b : String => a.toList ≤ b.toList) names)
    (List.pairwise_insertionSort (fun a b : String => a.toList ≤ b.toList) names') ?_
  · exact String.toList_inj.mp (le_antisymm hab hba)
  · exact (List.perm_insertionSort _ _).trans (h.trans (List.perm_insertionSort _ _).symm)

theorem sorted_eq_nil {names : List String} : sorted names = [] ↔ names = [] := by
  rw [← List.length_eq_zero_iff, sorted, List.length_insertionSort, List.length_eq_zero_iff]

theorem found_perm (hnodup : (rows.map ColumnRow.columnName).Nodup) (h : rows.Perm rows') :
    found rows = found rows' := by
  have hnodup' := (h.map ColumnRow.columnName).nodup_iff.mp hnodup
  funext name
  refine Option.ext fun r => ?_
  rw [found_eq_some hnodup, found_eq_some hnodup', h.mem_iff]

/-- The order of the rows makes no difference. -/
theorem validateColumns_perm (hnodup : (rows.map ColumnRow.columnName).Nodup)
    (h : rows.Perm rows') : validateColumns repr rows = validateColumns repr rows' := by
  have hnames : (rows.map ColumnRow.columnName).dedup.Perm (rows'.map ColumnRow.columnName).dedup :=
    (h.map _).dedup
  have hmem (name : String) : name ∈ (rows.map ColumnRow.columnName).dedup ↔
      name ∈ (rows'.map ColumnRow.columnName).dedup := hnames.mem_iff
  simp only [validateColumns, hmem, found_perm hnodup h, sorted_perm (hnames.filter _)]

/-- No diffs: the expected columns, and each of them conforms. -/
theorem validateColumns_eq_nil (hnodup : (rows.map ColumnRow.columnName).Nodup) :
    validateColumns repr rows = [] ↔ Conforms rows := by
  simp only [validateColumns, List.append_eq_nil_iff, List.map_eq_nil_iff, sorted_eq_nil,
    List.filter_eq_nil_iff, List.flatMap_eq_nil_iff, mem_sorted, List.mem_filter, List.mem_dedup,
    decide_eq_true_eq, not_not]
  constructor
  · intro h
    obtain ⟨⟨hmissing, hextra⟩, hchecks⟩ := h
    refine ⟨fun name => ⟨hextra name, hmissing name⟩, fun c hc r hr hname => ?_⟩
    have hcheck := hchecks c.1 ⟨List.mem_map_of_mem hc, hmissing _ (List.mem_map_of_mem hc)⟩
    simp only [lookup_expectedColumns c hc, (found_eq_some hnodup).mpr ⟨hr, hname⟩] at hcheck
    exact (columnDiffs_eq_nil (expectedColumns_plain c hc)).mp hcheck
  · intro h
    refine ⟨⟨fun name => (h.names name).mpr, fun name => (h.names name).mp⟩, ?_⟩
    intro name hchecked
    obtain ⟨hname, -⟩ := hchecked
    obtain ⟨c, hc, rfl⟩ := List.mem_map.mp hname
    rw [lookup_expectedColumns c hc]
    cases hfound : found rows c.1 with
    | none => rfl
    | some r =>
      obtain ⟨hr, hrname⟩ := (found_eq_some hnodup).mp hfound
      exact (columnDiffs_eq_nil (expectedColumns_plain c hc)).mpr (h.columns c hc r hr hrname)

end

/-- `validate_columns` on rows of distinct names: nothing to report exactly when they conform,
whatever their order, and no type passes for another base type or sign. -/
theorem validateColumns_exact (repr : String → String) (rows : List ColumnRow)
    (hnodup : (rows.map ColumnRow.columnName).Nodup) :
    (validateColumns repr rows = [] ↔ Conforms rows) ∧
      (∀ rows', rows.Perm rows' → validateColumns repr rows' = validateColumns repr rows) ∧
      ∀ c ∈ expectedColumns, ∀ actual, typesMatch c.2.columnType (lower actual) = true →
        Passes c.2.columnType actual :=
  ⟨validateColumns_eq_nil hnodup, fun _ h => (validateColumns_perm hnodup h).symm,
    fun c hc actual h =>
      passes_of_agrees c hc actual ((typesMatch_iff (expectedColumns_plain c hc) actual).mp h)⟩

/-- The table as an older server lists it, with a width. -/
def widenedColumns : List ColumnRow :=
  createdColumns.map fun r =>
    if r.columnName = "id" then { r with columnType := "BIGINT(20) unsigned" } else r

theorem validateColumns_exact_widened :
    (validateColumns id widenedColumns = [] ↔ Conforms widenedColumns) ∧
      validateColumns id widenedColumns = [] ∧
      validateColumns id widenedColumns.reverse = validateColumns id widenedColumns := by
  obtain ⟨hiff, hperm, -⟩ := validateColumns_exact id widenedColumns (by decide)
  exact ⟨hiff, by decide +kernel, hperm _ (List.reverse_perm _).symm⟩

end Bluewave.ColumnDrift
