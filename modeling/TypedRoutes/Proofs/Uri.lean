import Mathlib.Data.List.DropRight
import Mathlib.Data.List.TakeWhile
import TypedRoutes.Config.Settings
import TypedRoutes.Proofs.Text.Pieces

/-!
# Cleaning generated URLs

Behind the base URI and without its leading slashes, a path that has no query and no fragment is
recovered up to the slashes at its ends.
-/
namespace TypedRoutes

namespace Uri

/-- A text without the marks of a query and of a fragment. -/
def IsPlain (cs : List Char) : Prop :=
  '?' ∉ cs ∧ '#' ∉ cs

instance : DecidablePred IsPlain :=
  fun cs => inferInstanceAs (Decidable ('?' ∉ cs ∧ '#' ∉ cs))

theorem pathPart_eq_self {cs : List Char} (h : IsPlain cs) : pathPart cs = cs := by
  refine List.takeWhile_eq_self_iff.mpr fun c hc => ?_
  have hquery : c ≠ '?' := fun heq => h.1 (heq ▸ hc)
  have hfragment : c ≠ '#' := fun heq => h.2 (heq ▸ hc)
  simp [hquery, hfragment]

/-- The mark of a query or of a fragment lies behind a text that has none. -/
theorem pathPart_append {cs : List Char} (h : IsPlain cs) (rest : List Char) :
    pathPart (cs ++ rest) = cs ++ pathPart rest := by
  refine List.takeWhile_append_of_pos fun c hc => ?_
  have hquery : c ≠ '?' := fun heq => h.1 (heq ▸ hc)
  have hfragment : c ≠ '#' := fun heq => h.2 (heq ▸ hc)
  simp [hquery, hfragment]

theorem pathPart_dropLeadingSlashes (cs : List Char) :
    pathPart (Text.dropLeadingSlashes cs) = Text.dropLeadingSlashes (pathPart cs) := by
  induction cs with
  | nil => rfl
  | cons c cs ih =>
    by_cases hslash : c = '/'
    · subst hslash
      exact ih
    · have hkept : Text.dropLeadingSlashes (c :: cs) = c :: cs :=
        Text.dropLeadingSlashes_eq_self (by simpa using hslash)
      rw [hkept, Text.dropLeadingSlashes_eq_self]
      intro hhead
      rw [pathPart, Text.upTo, List.head?_takeWhile, Option.filter_eq_some_iff] at hhead
      exact hslash (Option.some.inj hhead.1)

theorem withoutBase_append {base : List Char} (h : base ≠ []) (cs : List Char) :
    withoutBase base (base ++ cs) = cs := by
  have hlead : Text.afterLead? base (base ++ cs) = some cs := Text.afterLead?_eq_some_iff.mpr rfl
  simp [withoutBase, h, hlead]

/-- A path behind the base URI is cleaned to the path with single slashes. -/
theorem clean_append {base : String} {path : List Char} (hne : base.toList ≠ [])
    (hbase : IsPlain base.toList) (hpath : IsPlain path) :
    clean (base ++ String.ofList (Text.dropLeadingSlashes path)) base =
      String.ofList ('/' :: Text.trimBoth Text.isSlash path) := by
  have hrest : IsPlain (Text.dropLeadingSlashes path) :=
    ⟨fun h => hpath.1 ((List.dropWhile_sublist _).subset h),
      fun h => hpath.2 ((List.dropWhile_sublist _).subset h)⟩
  have hplain : IsPlain (base.toList ++ Text.dropLeadingSlashes path) := by
    simp only [IsPlain, List.mem_append, not_or] at hbase hrest ⊢
    exact ⟨⟨hbase.1, hrest.1⟩, hbase.2, hrest.2⟩
  rw [clean, String.toList_append, String.toList_ofList, pathPart_eq_self hplain,
    withoutBase_append hne, Text.trimBoth_eq, Text.trimBoth_eq, Text.dropLeadingSlashes,
    List.dropWhile_idempotent]

/-! ## Leading slashes -/

/-- Whether a URI begins with one slash and no more. -/
def IsRooted (cs : List Char) : Prop :=
  cs.head? = some '/' ∧ cs.tail.head? ≠ some '/'

instance : DecidablePred IsRooted :=
  fun cs => inferInstanceAs (Decidable (cs.head? = some '/' ∧ cs.tail.head? ≠ some '/'))

theorem isRooted_iff {cs : List Char} : IsRooted cs ↔ cs = '/' :: Text.dropLeadingSlashes cs := by
  cases cs with
  | nil => simp [IsRooted]
  | cons c cs =>
    by_cases hc : c = '/'
    · subst hc
      have hdrop : Text.dropLeadingSlashes ('/' :: cs) = Text.dropLeadingSlashes cs := rfl
      rw [hdrop, List.cons_inj_right]
      constructor
      · rintro ⟨-, hcs⟩
        exact (Text.dropLeadingSlashes_eq_self hcs).symm
      · intro hcs
        refine ⟨rfl, ?_⟩
        rw [List.tail_cons, hcs]
        exact Text.head?_dropLeadingSlashes_ne cs
    · simp [IsRooted, hc]

/-! ## Mounted applications -/

theorem withTrailingSlash_root : withTrailingSlash "/" = "/" := rfl

theorem toList_withTrailingSlash (s : String) :
    (withTrailingSlash s).toList = Text.dropTrailingSlashes s.toList ++ ['/'] := by
  rw [withTrailingSlash, String.toList_ofList]

/-- Under the root nothing but the query, the fragment and the slashes at the ends is left out. -/
theorem clean_root (uri : String) :
    clean uri "/" = String.ofList ('/' :: Text.trimBoth Text.isSlash (pathPart uri.toList)) := by
  have hroot (cs : List Char) :
      Text.trimBoth Text.isSlash (withoutBase ['/'] cs) = Text.trimBoth Text.isSlash cs := by
    cases cs with
    | nil => rfl
    | cons c cs =>
      by_cases hslash : c = '/'
      · subst hslash
        rfl
      · simp [withoutBase, Text.afterLead?, Ne.symm hslash, Text.dropTrailingSlashes, Text.trimEnd,
          Text.isSlash]
  rw [clean, show "/".toList = ['/'] from rfl, hroot]

/-- Behind its base URI a path is cleaned like the path alone under the root. -/
theorem clean_mounted {base : String} (hne : base.toList ≠ []) (hbase : IsPlain base.toList)
    (uri : String) :
    clean (base ++ String.ofList (Text.dropLeadingSlashes uri.toList)) base = clean uri "/" := by
  rw [clean_root, clean, String.toList_append, String.toList_ofList, pathPart_append hbase,
    withoutBase_append hne, pathPart_dropLeadingSlashes, Text.trimBoth_eq, Text.trimBoth_eq,
    Text.dropLeadingSlashes, List.dropWhile_idempotent]

/-- Nothing is left of a base URI that lacks its last slash. -/
theorem withoutBase_stem (base : List Char) :
    withoutBase (Text.dropTrailingSlashes base ++ ['/']) (Text.dropTrailingSlashes base) = [] := by
  have hshort : Text.afterLead? (Text.dropTrailingSlashes base ++ ['/'])
      (Text.dropTrailingSlashes base) = none := by
    rw [Option.eq_none_iff_forall_ne_some]
    intro rest hrest
    have hlength := congrArg List.length (Text.afterLead?_eq_some_iff.mp hrest)
    simp at hlength
  simp [withoutBase, hshort, Text.dropTrailingSlashes_append_slash,
    Text.dropTrailingSlashes_dropTrailingSlashes]

/-- A base URI without its last slash leads to the root. -/
theorem clean_base_without_slash (base : String)
    (hbase : IsPlain (withTrailingSlash base).toList) :
    clean (String.ofList (withTrailingSlash base).toList.dropLast) (withTrailingSlash base) =
      clean "/" "/" := by
  have hstem : (withTrailingSlash base).toList.dropLast = Text.dropTrailingSlashes base.toList := by
    rw [toList_withTrailingSlash, List.dropLast_concat]
  have hplain : IsPlain (Text.dropTrailingSlashes base.toList) := by
    rw [← hstem]
    exact ⟨fun h => hbase.1 (List.dropLast_subset _ h),
      fun h => hbase.2 (List.dropLast_subset _ h)⟩
  rw [clean, String.toList_ofList, hstem, pathPart_eq_self hplain, toList_withTrailingSlash,
    withoutBase_stem]
  rfl

end Uri

theorem Settings.baseUri_ne_nil (settings : Settings) : settings.baseUri.toList ≠ [] := by
  rw [← settings.withTrailingSlash_baseUri, Uri.withTrailingSlash]
  simp

end TypedRoutes
