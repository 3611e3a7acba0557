import RestQuery.Proofs.Filter.Meaning
import RestQuery.Proofs.Filter.Refusal

/-!
# Pairs that take the place of others

Pairs of fields and values are compiled to one object, in which a later pair takes the place of an
earlier one with its field. So the filter of some pairs behind others has all members of theirs, and
of the filter of the others those whose fields do not come again (`Filter.mem_fields_append`). What
is lost are the comparisons of the fields that both have: the filter of all pairs holds exactly when
the two filters do if these are compared alike, and only then (`Condition.holds_fields_append`).
-/

namespace RestQuery

/-- The interpretation under which every comparison holds but one. -/
def Interpretation.allBut (field op : String) (value : Json) : Interpretation :=
  fun field' op' value' => !(field' = field ∧ op' = op ∧ value' = value : Bool)

namespace Filter

variable {params : Parameters} {pairs ps qs : List (String × Json)} {f g h : Filter}

theorem ordered_fields (hf : fields params pairs = .ok f) : KeyMap.Ordered f :=
  fields_eq_ok hf ▸ KeyMap.ordered_ofEntries _

/-- Each member of the filter of some pairs is a comparison of one of the fields. -/
theorem exists_of_mem_fields (hf : fields params pairs = .ok f) {entry : String × Json}
    (hentry : entry ∈ f) :
    (∃ pair ∈ pairs, pair.1 = entry.1) ∧ ∃ op value, entry.2 = .object (single op value) := by
  rw [fields_eq_ok hf] at hentry
  obtain ⟨pair, hpair, rfl⟩ := List.mem_map.mp (KeyMap.mem_of_mem_ofEntries hentry)
  exact ⟨⟨pair, hpair, rfl⟩, _, _, rfl⟩

/-- What is in the filter of some pairs behind others. -/
theorem mem_fields_append (hf : fields params ps = .ok f) (hg : fields params qs = .ok g)
    (hh : fields params (ps ++ qs) = .ok h) {entry : String × Json} :
    entry ∈ h ↔ entry ∈ g ∨ entry ∈ f ∧ entry.1 ∉ KeyMap.keys g := by
  rw [fields_eq_ok hh, List.map_append, KeyMap.mem_ofEntries_append, ← fields_eq_ok hf,
    ← fields_eq_ok hg]

/-- Under all comparisons but one that it does not make, a filter of pairs holds. -/
theorem holds_allBut (hnames : ∀ pair ∈ pairs, isField pair.1) (hf : fields params pairs = .ok f)
    {name op : String} {value : Json} (h : (name, .object (single op value)) ∉ f) :
    holds (.allBut name op value) f = true := by
  rw [holds_iff]
  rintro ⟨key, body⟩ hentry
  obtain ⟨⟨pair, hpair, rfl⟩, op', value', rfl⟩ := exists_of_mem_fields hf hentry
  rw [memberHolds_single (hnames pair hpair), Interpretation.allBut]
  simp only [Bool.not_eq_true', decide_eq_false_iff_not]
  rintro ⟨rfl, rfl, rfl⟩
  exact h hentry

/-- A filter that makes a comparison does not hold under all others. -/
theorem not_holds_allBut {name op : String} {value : Json} (hname : isField name)
    (h : (name, .object (single op value)) ∈ f) : holds (.allBut name op value) f ≠ true := by
  intro hholds
  have hmember := holds_iff.mp hholds _ h
  rw [memberHolds_single hname, Interpretation.allBut] at hmember
  simp at hmember

/-- Pairs behind others hold if they do, and those of the others do whose fields do not come
again. -/
theorem holds_append (hf : fields params ps = .ok f) (hg : fields params qs = .ok g)
    (hh : fields params (ps ++ qs) = .ok h) (I : Interpretation) :
    holds I h = (holds I (f.filter fun entry => entry.1 ∉ KeyMap.keys g) && holds I g) := by
  rw [Bool.eq_iff_iff, Bool.and_eq_true, holds_iff, holds_iff, holds_iff]
  constructor
  · intro hall
    refine ⟨fun entry hentry => hall entry ?_, fun entry hentry => hall entry ?_⟩
    · obtain ⟨hmem, hnew⟩ := List.mem_filter.mp hentry
      exact (mem_fields_append hf hg hh).mpr (.inr ⟨hmem, of_decide_eq_true hnew⟩)
    · exact (mem_fields_append hf hg hh).mpr (.inl hentry)
  · rintro ⟨hfirst, hsecond⟩ entry hentry
    rcases (mem_fields_append hf hg hh).mp hentry with hmem | ⟨hmem, hnew⟩
    · exact hsecond entry hmem
    · exact hfirst entry (List.mem_filter.mpr ⟨hmem, decide_eq_true hnew⟩)

/-- Nothing is lost of fields that are compared alike. -/
theorem holds_append_of_alike (hf : fields params ps = .ok f) (hg : fields params qs = .ok g)
    (hh : fields params (ps ++ qs) = .ok h)
    (halike : ∀ name body body', (name, body) ∈ f → (name, body') ∈ g → body = body')
    (I : Interpretation) : holds I h = (holds I f && holds I g) := by
  rw [holds_append hf hg hh, Bool.eq_iff_iff, Bool.and_eq_true, Bool.and_eq_true]
  refine and_congr_left fun hsecond => ?_
  rw [holds_iff] at hsecond
  rw [holds_iff, holds_iff]
  constructor
  · rintro hfirst ⟨name, body⟩ hentry
    by_cases hnew : name ∈ KeyMap.keys g
    · obtain ⟨⟨_, body'⟩, hmem, rfl⟩ := List.mem_map.mp hnew
      rw [halike _ body body' hentry hmem]
      exact hsecond _ hmem
    · exact hfirst _ (List.mem_filter.mpr ⟨hentry, decide_eq_true hnew⟩)
  · exact fun hfirst entry hentry => hfirst entry (List.mem_of_mem_filter hentry)

/-- If nothing is lost, the fields in common are compared alike. -/
theorem alike_of_holds_append (hnames : ∀ pair ∈ ps ++ qs, isField pair.1)
    (hf : fields params ps = .ok f) (hg : fields params qs = .ok g)
    (hh : fields params (ps ++ qs) = .ok h) (hlaw : ∀ I, holds I h = (holds I f && holds I g))
    {name : String} {body body' : Json} (hbody : (name, body) ∈ f) (hbody' : (name, body') ∈ g) :
    body = body' := by
  obtain ⟨⟨pair, hpair, rfl⟩, op, value, rfl⟩ := exists_of_mem_fields hf hbody
  by_contra hne
  have hlost : (pair.1, .object (single op value)) ∉ h := by
    intro hmem
    rcases (mem_fields_append hf hg hh).mp hmem with hmem | ⟨-, hnew⟩
    · rw [KeyMap.mem_iff_get? (ordered_fields hg).nodup] at hmem hbody'
      exact hne (Option.some.inj (hmem.symm.trans hbody'))
    · exact hnew (List.mem_map.mpr ⟨_, hbody', rfl⟩)
  -- Where this comparison is the only one that fails, it shows that the pair was overwritten.
  have hholds := holds_allBut hnames hh hlost
  rw [hlaw, Bool.and_eq_true] at hholds
  exact not_holds_allBut (hnames pair (List.mem_append_left _ hpair)) hbody hholds.1

end Filter

namespace Condition

/-- Pairs behind others compile if both do. -/
theorem exists_compile_append {params : Parameters} {ps qs : List (String × Json)} {f g : Filter}
    (hf : compile params (.fields ps) = .ok f) (hg : compile params (.fields qs) = .ok g) :
    ∃ h, compile params (.fields (ps ++ qs)) = .ok h := by
  have hfirst := exists_compile_iff.mp ⟨f, hf⟩
  have hsecond := exists_compile_iff.mp ⟨g, hg⟩
  rw [refusedField?] at hfirst hsecond
  rw [exists_compile_iff, refusedField?, List.findSome?_append, hfirst, hsecond]
  rfl

open RestQuery.Filter in
/-- The filter of some pairs behind others holds if the filter of these does, and what that of the
others says of further fields. It holds exactly when both filters do, under every interpretation, if
and only if they compare the fields that they have in common alike. -/
theorem holds_fields_append (params : Parameters) (ps qs : List (String × Json)) (f g : Filter)
    (hnames : ∀ pair ∈ ps ++ qs, isField pair.1) (hf : compile params (.fields ps) = .ok f)
    (hg : compile params (.fields qs) = .ok g) :
    ∃ h, compile params (.fields (ps ++ qs)) = .ok h ∧
      (∀ I, holds I h = (holds I (f.filter fun entry => entry.1 ∉ KeyMap.keys g) && holds I g)) ∧
      ((∀ I, holds I h = (holds I f && holds I g)) ↔
        ∀ name body body', (name, body) ∈ f → (name, body') ∈ g → body = body') := by
  obtain ⟨h, hcompile⟩ := exists_compile_append hf hg
  have hh := hcompile
  rw [compile] at hf hg hh
  refine ⟨h, hcompile, holds_append hf hg hh, fun hlaw name body body' hbody hbody' => ?_,
    holds_append_of_alike hf hg hh⟩
  exact alike_of_holds_append hnames hf hg hh hlaw hbody hbody'

open RestQuery.Filter in
/-- A value of a field is lost behind a list that stands for a membership of it: the filter of both
holds of what is only in the list. -/
theorem holds_fields_append_same_field :
    let ps : List (String × Json) := [("id", .nat 1)]
    let qs : List (String × Json) := [("id", .list [.nat 1, .nat 2])]
    let f : Filter := [("id", .object [("eq", .nat 1)])]
    let g : Filter := [("id", .object [("in", .list [.nat 1, .nat 2])])]
    (∀ pair ∈ ps ++ qs, isField pair.1) ∧ compile [] (.fields ps) = .ok f ∧
      compile [] (.fields qs) = .ok g ∧ compile [] (.fields (ps ++ qs)) = .ok g ∧
        ¬ ∀ I, holds I g = (holds I f && holds I g) := by
  intro ps qs f g
  have hnames : ∀ pair ∈ ps ++ qs, isField pair.1 := by decide
  have hf : compile [] (.fields ps) = .ok f := by decide +kernel
  have hg : compile [] (.fields qs) = .ok g := by decide +kernel
  have happend : compile [] (.fields (ps ++ qs)) = .ok g := by decide +kernel
  obtain ⟨h, hh, -, hlaw⟩ := holds_fields_append [] ps qs f g hnames hf hg
  obtain rfl : h = g := Except.ok.inj (hh.symm.trans happend)
  refine ⟨hnames, hf, hg, happend, fun hboth => ?_⟩
  have hsame := hlaw.mp hboth "id" _ _ List.mem_cons_self List.mem_cons_self
  exact absurd hsame (by decide)

end Condition

end RestQuery
