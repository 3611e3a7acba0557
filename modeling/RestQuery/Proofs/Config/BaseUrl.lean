import Mathlib.Data.List.DropRight
import RestQuery.Config.Validate

/-!
# The base URL that is left of a configuration

A configuration is accepted with another base URL: blanks are removed from its ends, and then
slashes from the new end. Each is done once, in this order, so a blank that stood in front of the
slashes is at the end in the result, and the check of the URL does not see it. Nothing else of what
is to be removed is left. `Config.validate_settles` says so of every accepted configuration, and
that it is accepted once more without a change exactly if its base URL does not end in a blank.
-/

namespace RestQuery

namespace Text

variable {p : Char → Bool} {cs : List Char} {c : Char}

/-- What is dropped from the end are characters to drop. -/
theorem exists_dropEndWhile_append (p : Char → Bool) (cs : List Char) :
    ∃ dropped, cs = dropEndWhile p cs ++ dropped ∧ ∀ c ∈ dropped, p c = true :=
  ⟨cs.rtakeWhile p, List.rdropWhile_append_rtakeWhile.symm, fun _ => List.mem_rtakeWhile_imp⟩

/-- The last of the characters that remain is one to keep. -/
theorem getLast?_dropEndWhile (h : (dropEndWhile p cs).getLast? = some c) : p c = false := by
  have hne : cs.rdropWhile p ≠ [] := fun hnil => by
    rw [show dropEndWhile p cs = [] from hnil] at h
    cases h
  have hlast : (cs.rdropWhile p).getLast? = some c := h
  rw [List.getLast?_eq_some_getLast hne] at hlast
  obtain rfl := Option.some.inj hlast
  exact Bool.eq_false_iff.mpr (List.rdropWhile_last_not p cs hne)

/-- Dropping from the end leaves the first character, if it leaves any. -/
theorem head?_of_dropEndWhile (h : (dropEndWhile p cs).head? = some c) : cs.head? = some c := by
  obtain ⟨dropped, happend, -⟩ := exists_dropEndWhile_append p cs
  rw [happend, List.head?_append, h, Option.some_or]

/-- The first of the characters that remain is one to keep. -/
theorem head?_stripWhile (h : (stripWhile p cs).head? = some c) : p c = false := by
  have hfirst := List.head?_dropWhile_not p cs
  rw [head?_of_dropEndWhile h] at hfirst
  exact hfirst

/-- Of characters that are dropped from both ends, the others remain in order. -/
theorem stripWhile_sublist (p : Char → Bool) (cs : List Char) : (stripWhile p cs).Sublist cs :=
  (List.rdropWhile_prefix p (cs.dropWhile p)).sublist.trans (List.dropWhile_sublist p)

/-- Nothing is dropped from the ends exactly if the characters there are to be kept. -/
theorem stripWhile_eq_self_iff : stripWhile p cs = cs ↔
    (∀ c ∈ cs.head?, p c = false) ∧ ∀ c ∈ cs.getLast?, p c = false := by
  constructor
  · intro h
    rw [← h]
    exact ⟨fun c => head?_stripWhile, fun c => getLast?_dropEndWhile⟩
  · rintro ⟨hfirst, hlast⟩
    have hfront : cs.dropWhile p = cs := by
      cases cs with
      | nil => rfl
      | cons c rest => exact List.dropWhile_cons_of_neg (by simp [hfirst c rfl])
    rw [stripWhile, hfront]
    refine List.rdropWhile_eq_self_iff.mpr fun hne => ?_
    exact Bool.eq_false_iff.mp (hlast _ (List.getLast?_eq_some_getLast hne))

/-- Whether a text ends in a blank. -/
def EndsBlank (s : String) : Prop := ∃ c ∈ s.toList.getLast?, isBlank c = true

end Text

namespace Config

open Text

variable {c c' : Config}

/-- A configuration is accepted if its base URL, once blanks and slashes are removed, is a URL, and
pages may have records. -/
theorem validate_eq_ok_iff : c.validate = .ok c' ↔
    c.trimmedUrl ≠ "" ∧ Url.check c.trimmedUrl = .ok () ∧ c.maxPerPage ≠ 0 ∧
      c' = { c with baseUrl := c.trimmedUrl } := by
  unfold validate
  dsimp only
  by_cases hempty : c.trimmedUrl = ""
  · rw [if_pos hempty]
    exact ⟨nofun, fun h => absurd hempty h.1⟩
  rw [if_neg hempty]
  cases hcheck : Url.check c.trimmedUrl with
  | error fault => exact ⟨nofun, nofun⟩
  | ok _ =>
    dsimp only
    by_cases hpages : c.maxPerPage = 0
    · rw [if_pos hpages]
      exact ⟨nofun, fun h => absurd hpages h.2.2.1⟩
    · rw [if_neg hpages]
      constructor
      · intro h
        exact ⟨hempty, rfl, hpages, (Except.ok.inj h).symm⟩
      · rintro ⟨-, -, -, rfl⟩
        rfl

/-- The characters of a base URL that are left. -/
theorem toList_trimmedUrl (c : Config) : c.trimmedUrl.toList =
    dropEndWhile (· == '/') (stripWhile isBlank c.baseUrl.toList) := by
  rw [trimmedUrl, trimEndChar, trim, String.toList_ofList, String.toList_ofList]

/-- All that is removed behind the blanks at the ends are slashes, and there are some if a blank is
left at the end. -/
theorem exists_slashes (c : Config) : ∃ count,
    (trim c.baseUrl).toList = c.trimmedUrl.toList ++ List.replicate count '/' ∧
      (EndsBlank c.trimmedUrl → count ≠ 0) := by
  obtain ⟨slashes, happend, hslashes⟩ :=
    exists_dropEndWhile_append (· == '/') (stripWhile isBlank c.baseUrl.toList)
  have hcount : slashes = List.replicate slashes.length '/' :=
    List.eq_replicate_of_mem fun s hs => beq_iff_eq.mp (hslashes s hs)
  rw [trim, String.toList_ofList, toList_trimmedUrl]
  refine ⟨slashes.length, hcount ▸ happend, ?_⟩
  rintro ⟨blank, hblank, hisBlank⟩ hzero
  -- Without slashes the last character is that of the trimmed text, which is no blank.
  rw [List.eq_nil_of_length_eq_zero hzero, List.append_nil] at happend
  rw [toList_trimmedUrl, ← happend] at hblank
  rw [getLast?_dropEndWhile hblank] at hisBlank
  cases hisBlank

/-- What is left of a base URL stays as it is exactly if no blank is left at its end. -/
theorem trimmedUrl_eq_self_iff (hbase : c'.baseUrl = c.trimmedUrl) :
    c'.trimmedUrl = c'.baseUrl ↔ ¬ EndsBlank c'.baseUrl := by
  rw [← String.toList_inj, toList_trimmedUrl]
  constructor
  · rintro h ⟨blank, hblank, hisBlank⟩
    have hstrip : stripWhile isBlank c'.baseUrl.toList = c'.baseUrl.toList := by
      refine (stripWhile_sublist _ _).eq_of_length_le ?_
      conv_lhs => rw [← h]
      exact (List.rdropWhile_prefix _ _).length_le
    rw [(stripWhile_eq_self_iff.mp hstrip).2 blank hblank] at hisBlank
    cases hisBlank
  · intro h
    have hstrip : stripWhile isBlank c'.baseUrl.toList = c'.baseUrl.toList := by
      refine stripWhile_eq_self_iff.mpr ⟨fun first hfirst => ?_, fun last hlast => ?_⟩
      · rw [hbase, toList_trimmedUrl] at hfirst
        exact head?_stripWhile (head?_of_dropEndWhile hfirst)
      · exact Bool.eq_false_iff.mpr fun hblank => h ⟨last, hlast, hblank⟩
    rw [hstrip, hbase, toList_trimmedUrl]
    exact List.rdropWhile_idempotent _ _

/-- An accepted configuration differs from the one given in its base URL only: the text between the
blanks at its ends, without the slashes at the end of that text. It is not empty, has no slash at
its end and no blank at its start; it has one at its end only if that stood in front of the slashes;
and it is accepted once more, as it is, exactly if it has none there. -/
theorem validate_settles (h : c.validate = .ok c') :
    c' = { c with baseUrl := c'.baseUrl } ∧
      (∃ count, (trim c.baseUrl).toList = c'.baseUrl.toList ++ List.replicate count '/' ∧
        (EndsBlank c'.baseUrl → count ≠ 0)) ∧
      c'.baseUrl ≠ "" ∧ c'.baseUrl.toList.getLast? ≠ some '/' ∧
      (∀ first ∈ c'.baseUrl.toList.head?, isBlank first = false) ∧
      (c'.validate = .ok c' ↔ ¬ EndsBlank c'.baseUrl) := by
  obtain ⟨hempty, hcheck, hpages, rfl⟩ := validate_eq_ok_iff.mp h
  have hstays := @trimmedUrl_eq_self_iff c { c with baseUrl := c.trimmedUrl } rfl
  refine ⟨rfl, c.exists_slashes, hempty, fun hslash => ?_, fun first hfirst => ?_, ?_⟩
  · rw [toList_trimmedUrl] at hslash
    cases getLast?_dropEndWhile hslash
  · rw [toList_trimmedUrl] at hfirst
    exact head?_stripWhile (head?_of_dropEndWhile hfirst)
  · rw [← hstays, validate_eq_ok_iff]
    constructor
    · rintro ⟨-, -, -, hsame⟩
      exact (congrArg baseUrl hsame).symm
    · intro hsame
      rw [hsame]
      exact ⟨hempty, hcheck, hpages, rfl⟩

/-- A blank in front of the slash at the end is kept, so that the configuration is not accepted
again as it is. -/
theorem validate_settles_blank :
    let c : Config := { baseUrl := "https://api.example.com /" }
    let c' : Config := { baseUrl := "https://api.example.com " }
    c.validate = .ok c' ∧ EndsBlank c'.baseUrl ∧ c'.validate ≠ .ok c' := by
  intro c c'
  have hvalid : c.validate = .ok c' := by decide +kernel
  have hblank : EndsBlank c'.baseUrl := ⟨' ', by decide +kernel, by decide⟩
  exact ⟨hvalid, hblank, fun hagain => (validate_settles hvalid).2.2.2.2.2.mp hagain hblank⟩

end Config

end RestQuery
