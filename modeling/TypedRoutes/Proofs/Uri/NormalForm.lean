import TypedRoutes.Proofs.Uri

/-!
# The normal form of a path

A cleaned URI is a path in normal form. Query, fragment and slashes at the end of a URI do not
matter for it, and a base URI is left out only where a segment ends.
-/
namespace TypedRoutes

namespace Text

/-! ## Slashes at both ends -/

variable {cs : List Char}

theorem head?_trimBoth_slashes_ne (cs : List Char) :
    (trimBoth isSlash cs).head? ≠ some '/' := by
  have hprefix : trimBoth isSlash cs <+: dropLeadingSlashes cs := List.rdropWhile_prefix isSlash _
  intro h
  obtain ⟨rest, hrest⟩ := hprefix
  apply head?_dropLeadingSlashes_ne cs
  rw [← hrest, List.head?_append, h]
  rfl

theorem getLast?_dropTrailingSlashes_ne (cs : List Char) :
    (dropTrailingSlashes cs).getLast? ≠ some '/' := by
  rw [dropTrailingSlashes, trimEnd, List.getLast?_reverse]
  exact head?_dropLeadingSlashes_ne cs.reverse

/-- Of a text without slashes at its ends nothing is trimmed. -/
theorem trimBoth_slashes_eq_self (hfirst : cs.head? ≠ some '/') (hlast : cs.getLast? ≠ some '/') :
    trimBoth isSlash cs = cs := by
  have hfront : cs.dropWhile isSlash = cs := dropLeadingSlashes_eq_self hfirst
  rw [trimBoth_eq, hfront]
  exact dropTrailingSlashes_eq_self hlast

theorem trimBoth_slashes_append_slash (cs : List Char) :
    trimBoth isSlash (cs ++ ['/']) = trimBoth isSlash cs := by
  rw [trimBoth_eq, trimBoth_eq, List.dropWhile_append]
  split_ifs with hempty
  · rw [List.isEmpty_iff.mp hempty]
    rfl
  · exact dropTrailingSlashes_append_slash _

end Text

namespace Uri

/-- The normal form of a path: one slash in front, none at the end unless the path is the root, and
neither a query nor a fragment. -/
structure IsNormal (path : List Char) : Prop where
  rooted : IsRooted path
  end_ne_slash : path = ['/'] ∨ path.getLast? ≠ some '/'
  plain : IsPlain path

/-- Whether a path is the base URI without its last slash or begins with the base URI. -/
def IsUnder (base path : List Char) : Prop :=
  path = base.dropLast ∨ base <+: path

instance (base path : List Char) : Decidable (IsUnder base path) :=
  inferInstanceAs (Decidable (path = base.dropLast ∨ base <+: path))

variable {base cs rest : List Char}

/-! ## Query and fragment -/

/-- The path of a URI ends where its query or its fragment begins. -/
theorem pathPart_append_mark {mark : Char} (hmark : mark = '?' ∨ mark = '#')
    (cs rest : List Char) : pathPart (cs ++ mark :: rest) = pathPart cs := by
  induction cs with
  | nil => rcases hmark with rfl | rfl <;> rfl
  | cons c cs ih =>
    simp only [pathPart, Text.upTo, List.cons_append, List.takeWhile_cons] at ih ⊢
    rw [ih]

theorem isPlain_pathPart (cs : List Char) : IsPlain (pathPart cs) := by
  constructor
  · intro h
    simpa using List.mem_takeWhile_imp h
  · intro h
    simpa using List.mem_takeWhile_imp h

theorem IsPlain.sublist (h : IsPlain cs) (hrest : rest.Sublist cs) : IsPlain rest :=
  ⟨fun hquery => h.1 (hrest.subset hquery), fun hfragment => h.2 (hrest.subset hfragment)⟩

theorem trimBoth_sublist (cs : List Char) : (Text.trimBoth Text.isSlash cs).Sublist cs :=
  (List.rdropWhile_prefix Text.isSlash _).sublist.trans (List.dropWhile_sublist _)

/-! ## Base URIs -/

theorem withoutBase_sublist (base cs : List Char) : (withoutBase base cs).Sublist cs := by
  unfold withoutBase
  split
  · exact .refl cs
  · split
    next rest hrest =>
      rw [Text.afterLead?_eq_some_iff.mp hrest]
      exact List.sublist_append_right base rest
    · split
      · exact List.nil_sublist cs
      · exact .refl cs

/-- What is not under the base URI stays as it is. -/
theorem withoutBase_of_not_isUnder
    (h : ¬IsUnder (Text.dropTrailingSlashes base ++ ['/']) cs) :
    withoutBase (Text.dropTrailingSlashes base ++ ['/']) cs = cs := by
  rw [IsUnder, not_or, List.dropLast_concat] at h
  have hlead : Text.afterLead? (Text.dropTrailingSlashes base ++ ['/']) cs = none := by
    rw [Option.eq_none_iff_forall_ne_some]
    intro rest hrest
    exact h.2 ⟨rest, (Text.afterLead?_eq_some_iff.mp hrest).symm⟩
  simp [withoutBase, hlead, Text.dropTrailingSlashes_append_slash,
    Text.dropTrailingSlashes_dropTrailingSlashes, h.1]

/-- A slash at the end puts no other path under the base URI. -/
theorem isUnder_of_append_slash
    (h : IsUnder (Text.dropTrailingSlashes base ++ ['/']) (cs ++ ['/'])) :
    IsUnder (Text.dropTrailingSlashes base ++ ['/']) cs := by
  rw [IsUnder, List.dropLast_concat] at h ⊢
  rcases h with hstem | ⟨rest, hrest⟩
  · -- The base URI without its last slash does not end with a slash.
    refine absurd ?_ (Text.getLast?_dropTrailingSlashes_ne base)
    rw [← hstem, List.getLast?_concat]
  · cases rest using List.reverseRecOn with
    | nil =>
      rw [List.append_nil, List.append_left_inj] at hrest
      exact .inl hrest.symm
    | append_singleton rest c =>
      rw [← List.append_assoc] at hrest
      exact .inr ⟨rest, (List.append_inj_left' hrest rfl)⟩

/-! ## Cleaned URIs -/

variable {uri : String}

theorem toList_clean (uri base : String) :
    (clean uri base).toList =
      '/' :: Text.trimBoth Text.isSlash (withoutBase base.toList (pathPart uri.toList)) := by
  rw [clean, String.toList_ofList]

theorem isNormal_clean (uri base : String) : IsNormal (clean uri base).toList := by
  rw [toList_clean]
  have hplain := (isPlain_pathPart uri.toList).sublist (withoutBase_sublist base.toList _)
  generalize withoutBase base.toList (pathPart uri.toList) = path at hplain ⊢
  have hlast : (Text.trimBoth Text.isSlash path).getLast? ≠ some '/' :=
    Text.getLast?_dropTrailingSlashes_ne _
  constructor
  · exact ⟨rfl, Text.head?_trimBoth_slashes_ne path⟩
  · cases htrim : Text.trimBoth Text.isSlash path with
    | nil => exact .inl rfl
    | cons c cs =>
      rw [htrim] at hlast
      exact .inr (by rwa [List.getLast?_cons_cons])
  · obtain ⟨hquery, hfragment⟩ := hplain.sublist (trimBoth_sublist path)
    exact ⟨List.not_mem_cons_of_ne_of_not_mem (by decide) hquery,
      List.not_mem_cons_of_ne_of_not_mem (by decide) hfragment⟩

theorem IsNormal.exists_rest (h : IsNormal cs) :
    ∃ rest, cs = '/' :: rest ∧ rest.head? ≠ some '/' ∧ rest.getLast? ≠ some '/' := by
  obtain ⟨⟨hslash, hfirst⟩, hend, -⟩ := h
  obtain ⟨rest, rfl⟩ := List.head?_eq_some_iff.mp hslash
  refine ⟨rest, rfl, hfirst, ?_⟩
  cases rest with
  | nil => simp
  | cons d rest => rwa [List.getLast?_cons_cons, or_iff_right (by simp)] at hend

/-- A path in normal form is cleaned to itself under the root. -/
theorem IsNormal.clean_root (h : IsNormal uri.toList) : clean uri "/" = uri := by
  obtain ⟨rest, hpath, hfirst, hlast⟩ := h.exists_rest
  rw [Uri.clean_root, pathPart_eq_self h.plain, ← String.toList_inj, String.toList_ofList, hpath]
  exact congrArg _ (Text.trimBoth_slashes_eq_self hfirst hlast)

/-- Every path in normal form is what some URI is cleaned to, whatever the base URI is. -/
theorem IsNormal.exists_clean {path : String} (h : IsNormal path.toList) (base : String) :
    ∃ uri, clean uri (withTrailingSlash base) = path := by
  have hne : (withTrailingSlash base).toList ≠ [] := by simp [toList_withTrailingSlash]
  by_cases hbase : IsPlain (withTrailingSlash base).toList
  · exact ⟨_, (clean_mounted hne hbase path).trans h.clean_root⟩
  · -- The path has no query and no fragment, so it is not under a base URI that has one.
    rw [toList_withTrailingSlash] at hbase
    have hunder : ¬IsUnder (Text.dropTrailingSlashes base.toList ++ ['/']) path.toList := by
      rintro (hstem | hprefix)
      · rw [List.dropLast_concat] at hstem
        apply hbase
        rw [← hstem]
        simpa [IsPlain] using h.plain
      · exact hbase (h.plain.sublist hprefix.sublist)
    refine ⟨path, ?_⟩
    rw [clean, pathPart_eq_self h.plain, toList_withTrailingSlash, withoutBase_of_not_isUnder hunder]
    nth_rewrite 2 [← h.clean_root]
    rw [Uri.clean_root, pathPart_eq_self h.plain]

theorem clean_append_mark {mark : String} (hmark : mark = "?" ∨ mark = "#") (rest base : String) :
    clean (uri ++ mark ++ rest) base = clean uri base := by
  have hpath : pathPart (uri ++ mark ++ rest).toList = pathPart uri.toList := by
    rw [String.toList_append, String.toList_append, List.append_assoc]
    rcases hmark with rfl | rfl
    · exact pathPart_append_mark (.inl rfl) uri.toList rest.toList
    · exact pathPart_append_mark (.inr rfl) uri.toList rest.toList
  rw [clean, hpath, clean]

/-- A slash at the end of a path does not matter, also where it completes the base URI. -/
theorem clean_append_slash (base : String) (h : IsPlain uri.toList) :
    clean (uri ++ "/") (withTrailingSlash base) = clean uri (withTrailingSlash base) := by
  have hslash : IsPlain (uri ++ "/").toList := by
    simpa [IsPlain] using h
  rw [← String.toList_inj, toList_clean, toList_clean, pathPart_eq_self h, pathPart_eq_self hslash,
    toList_withTrailingSlash, String.toList_append, show "/".toList = ['/'] from rfl]
  by_cases hunder : IsUnder (Text.dropTrailingSlashes base.toList ++ ['/']) uri.toList
  · rcases hunder with hstem | ⟨rest, hrest⟩
    · rw [List.dropLast_concat] at hstem
      have hbase : Text.dropTrailingSlashes base.toList ++ ['/'] ≠ [] := by simp
      have hnothing := withoutBase_append hbase []
      rw [List.append_nil] at hnothing
      rw [hstem, withoutBase_stem, hnothing]
    · rw [← hrest, List.append_assoc, withoutBase_append (by simp), withoutBase_append (by simp),
        Text.trimBoth_slashes_append_slash]
  · rw [withoutBase_of_not_isUnder hunder,
      withoutBase_of_not_isUnder fun hother => hunder (isUnder_of_append_slash hother),
      Text.trimBoth_slashes_append_slash]

/-- Cleaning gives a path in normal form, whatever query, fragment or slash follows the path of a
URI. A base URI is left out where it is complete or lacks its last slash, and a path that is not
under it is cleaned like one under the root, where cleaning twice is cleaning once. -/
theorem clean_normalForm (uri base query fragment : String) :
    let mounted := withTrailingSlash base
    let path := pathPart uri.toList
    IsNormal (clean uri mounted).toList ∧
    clean (uri ++ "?" ++ query) mounted = clean uri mounted ∧
    clean (uri ++ "#" ++ fragment) mounted = clean uri mounted ∧
    (IsPlain uri.toList → clean (uri ++ "/") mounted = clean uri mounted) ∧
    (path = mounted.toList.dropLast → clean uri mounted = "/") ∧
    (∀ rest, path = mounted.toList ++ rest → clean uri mounted = clean (String.ofList rest) "/") ∧
    (¬IsUnder mounted.toList path → clean uri mounted = clean uri "/") ∧
    clean (clean uri "/") "/" = clean uri "/" := by
  intro mounted path
  have hmounted : mounted.toList = Text.dropTrailingSlashes base.toList ++ ['/'] :=
    toList_withTrailingSlash base
  refine ⟨isNormal_clean uri mounted, clean_append_mark (.inl rfl) query mounted,
    clean_append_mark (.inr rfl) fragment mounted, clean_append_slash base, ?_, ?_, ?_,
    (isNormal_clean uri "/").clean_root⟩
  · intro hstem
    rw [hmounted, List.dropLast_concat] at hstem
    rw [clean, hmounted, show pathPart uri.toList = _ from hstem, withoutBase_stem]
    rfl
  · intro rest hrest
    have hplain : IsPlain rest := by
      apply (isPlain_pathPart uri.toList).sublist
      rw [show pathPart uri.toList = _ from hrest]
      exact List.sublist_append_right _ rest
    rw [clean, show pathPart uri.toList = _ from hrest, withoutBase_append (by simp [hmounted]),
      clean_root, String.toList_ofList, pathPart_eq_self hplain]
  · intro hunder
    rw [hmounted] at hunder
    rw [clean, hmounted, withoutBase_of_not_isUnder hunder, clean_root]

/-- The base URI without its slash, a path under it and one that only begins like it. -/
theorem clean_normalForm_app :
    let mounted := withTrailingSlash "/app"
    (IsPlain "/app".toList ∧ clean ("/app" ++ "/") mounted = clean "/app" mounted) ∧
    (pathPart "/app?/".toList = mounted.toList.dropLast ∧ clean "/app?/" mounted = "/") ∧
    (pathPart "/app//x/#/y".toList = mounted.toList ++ "/x/".toList ∧
      clean "/app//x/#/y" mounted = clean "/x/" "/") ∧
    (¬IsUnder mounted.toList (pathPart "/apple".toList) ∧
      clean "/apple" mounted = clean "/apple" "/") := by
  intro mounted
  have hplain : IsPlain "/app".toList := by decide +kernel
  have hstem : pathPart "/app?/".toList = mounted.toList.dropLast := by decide +kernel
  have hrest : pathPart "/app//x/#/y".toList = mounted.toList ++ "/x/".toList := by decide +kernel
  have hunder : ¬IsUnder mounted.toList (pathPart "/apple".toList) := by decide +kernel
  obtain ⟨-, -, -, happended, -⟩ := clean_normalForm "/app" "/app" "" ""
  obtain ⟨-, -, -, -, hroot, -⟩ := clean_normalForm "/app?/" "/app" "" ""
  obtain ⟨-, -, -, -, -, hunmounted, -⟩ := clean_normalForm "/app//x/#/y" "/app" "" ""
  obtain ⟨-, -, -, -, -, -, hkept, -⟩ := clean_normalForm "/apple" "/app" "" ""
  exact ⟨⟨hplain, happended hplain⟩, ⟨hstem, hroot hstem⟩, ⟨hrest, hunmounted _ hrest⟩,
    ⟨hunder, hkept hunder⟩⟩

end Uri
end TypedRoutes
