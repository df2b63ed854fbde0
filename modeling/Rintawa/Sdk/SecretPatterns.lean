/-
# Patterns of secret paths

A pattern stands for the set of paths that it permits. Whether one pattern authorizes another
is decided from their texts, and the answer is yes exactly when the set of the one contains
the set of the other.
-/

import Mathlib.Data.List.Basic
import Rintawa.Sdk.Contracts

namespace Rintawa.Sdk

/-! ## Texts -/

/-- A rejected secret path or pattern. -/
inductive SecretPathError
  | invalidPath (value : String)
  | invalidPattern (value : String)
  deriving DecidableEq, Repr

/-- The displayed error. -/
def SecretPathError.display : SecretPathError → String
  | .invalidPath value => "invalid secret path `" ++ value ++ "`"
  | .invalidPattern value => "invalid secret path pattern `" ++ value ++ "`"

def isSecretChar (c : Char) : Bool := c.isLower || c.isDigit || c == '_'

def isSecretSegment (segment : List Char) : Bool := !segment.isEmpty && segment.all isSecretChar

/-- Parse a canonical dotted secret path. -/
def SecretPath.parse (value : String) : Except SecretPathError SecretPath :=
  if value.isEmpty || (value.toList.splitOn '.').any fun segment => !isSecretSegment segment then
    .error (.invalidPath value)
  else .ok ⟨value⟩

/-- Parse an exact path, or a domain pattern with a trailing wildcard. -/
def SecretPathPattern.parse (value : String) : Except SecretPathError SecretPathPattern :=
  match value.toList.dropSuffix? ".*".toList with
  | some domain =>
      if domain.isEmpty || domain.contains '*' then .error (.invalidPattern value)
      else
        match SecretPath.parse (String.ofList domain) with
        | .error _ => .error (.invalidPattern value)
        | .ok path => .ok (.descendants path)
  | none =>
      if value.toList.contains '*' then .error (.invalidPattern value)
      else (SecretPath.parse value).map .exact

/-! ## Valid paths -/

/-- A path that parsing returns. -/
def SecretPath.Valid (path : SecretPath) : Prop :=
  ∀ segment ∈ path.asStr.toList.splitOn '.', isSecretSegment segment = true

def SecretPathPattern.path : SecretPathPattern → SecretPath
  | .exact path | .descendants path => path

/-- A pattern that parsing returns. -/
def SecretPathPattern.Valid (pattern : SecretPathPattern) : Prop := pattern.path.Valid

/-- A character is the separator, or it is in one of the parts. -/
theorem mem_splitOn {c separator : Char} {text : List Char} (h : c ∈ text) :
    c = separator ∨ ∃ part ∈ text.splitOn separator, c ∈ part := by
  induction text with
  | nil => cases h
  | cons first rest ih =>
      rw [List.splitOn_cons_eq_if_modifyHead]
      split
      · next hseparator =>
          cases List.mem_cons.mp h with
          | inl hfirst => exact .inl (hfirst.trans (eq_of_beq hseparator))
          | inr hrest =>
              refine (ih hrest).imp_right fun hpart => ?_
              obtain ⟨part, hmem, hc⟩ := hpart
              exact ⟨part, List.mem_cons_of_mem _ hmem, hc⟩
      · cases hparts : rest.splitOn separator with
        | nil => exact absurd hparts (List.splitOn_ne_nil separator rest)
        | cons head tail =>
            rw [hparts] at ih
            rw [List.modifyHead_cons]
            cases List.mem_cons.mp h with
            | inl hfirst =>
                refine .inr ⟨first :: head, List.mem_cons_self, ?_⟩
                rw [hfirst]
                exact List.mem_cons_self
            | inr hrest =>
                refine (ih hrest).imp_right fun hpart => ?_
                obtain ⟨part, hmem, hc⟩ := hpart
                cases List.mem_cons.mp hmem with
                | inl hhead =>
                    refine ⟨first :: head, List.mem_cons_self, List.mem_cons_of_mem _ ?_⟩
                    rwa [← hhead]
                | inr htail => exact ⟨part, List.mem_cons_of_mem _ htail, hc⟩

namespace SecretPath

/-- A valid path is not empty. -/
theorem Valid.ne_nil {path : SecretPath} (h : path.Valid) : path.asStr.toList ≠ [] := by
  intro hempty
  rw [Valid, hempty, List.splitOn_nil] at h
  cases h [] List.mem_cons_self

/-- Exactly the valid paths are the results of parsing their own texts. -/
theorem parse_eq_ok_iff {value : String} {path : SecretPath} :
    parse value = .ok path ↔ path.asStr = value ∧ path.Valid := by
  have hsegments : ((value.toList.splitOn '.').any fun segment => !isSecretSegment segment) =
      false ↔ ∀ segment ∈ value.toList.splitOn '.', isSecretSegment segment = true := by
    simp only [List.any_eq_false, Bool.not_eq_true', Bool.not_eq_false]
  rw [parse]
  constructor
  · intro h
    split at h
    · cases h
    · next hvalid =>
        rw [Bool.not_eq_true, Bool.or_eq_false_iff] at hvalid
        cases h
        exact ⟨rfl, hsegments.mp hvalid.2⟩
  · intro h
    obtain ⟨rfl, hvalid⟩ := h
    have hnonempty : path.asStr.isEmpty = false := by
      rw [Bool.eq_false_iff]
      intro hempty
      exact hvalid.ne_nil (by rw [String.isEmpty_iff.mp hempty]; rfl)
    rw [hnonempty, hsegments.mpr hvalid]
    rfl

/-- A valid path is read back from its text. -/
theorem Valid.parse_asStr {path : SecretPath} (h : path.Valid) : parse path.asStr = .ok path := by
  rw [parse_eq_ok_iff]
  exact ⟨rfl, h⟩

/-- What the characters of a valid path are. -/
theorem Valid.mem {path : SecretPath} (h : path.Valid) {c : Char} (hc : c ∈ path.asStr.toList) :
    c = '.' ∨ isSecretChar c = true := by
  cases mem_splitOn hc with
  | inl hdot => exact .inl hdot
  | inr hsegment =>
      obtain ⟨segment, hmem, hc⟩ := hsegment
      have hvalid := h segment hmem
      rw [isSecretSegment, Bool.and_eq_true, List.all_eq_true] at hvalid
      exact .inr (hvalid.2 c hc)

/-- One path is below another one when its text goes on after a dot. -/
theorem below_iff {path domain : SecretPath} :
    path.below domain = true ↔ ∃ rest, path.asStr.toList = domain.asStr.toList ++ '.' :: rest := by
  rw [below]
  constructor
  · intro h
    split at h
    · next rest hdrop =>
        obtain ⟨start, hpath, hstart⟩ := List.dropPrefix?_eq_some_iff.mp hdrop
        rw [eq_of_beq hstart] at hpath
        exact ⟨rest, hpath⟩
    · cases h
  · intro h
    obtain ⟨rest, hrest⟩ := h
    have hdrop : path.asStr.toList.dropPrefix? domain.asStr.toList = some ('.' :: rest) :=
      List.dropPrefix?_eq_some_iff.mpr ⟨_, hrest, beq_self_eq_true _⟩
    rw [hdrop]
    rfl

/-- Below a path that is below another one. -/
theorem below_trans {path granted requested : SecretPath} (hpath : path.below granted = true)
    (hgranted : granted.below requested = true) : path.below requested = true := by
  rw [below_iff] at hpath hgranted ⊢
  obtain ⟨rest, hrest⟩ := hpath
  obtain ⟨rest', hrest'⟩ := hgranted
  refine ⟨rest' ++ '.' :: rest, ?_⟩
  rw [hrest, hrest', List.append_assoc, List.cons_append]

/-- No two paths are below one another. -/
theorem below_asymm {first second : SecretPath} (h : first.below second = true) :
    second.below first = false := by
  rw [Bool.eq_false_iff]
  intro hback
  rw [below_iff] at h hback
  obtain ⟨rest, hrest⟩ := h
  obtain ⟨rest', hrest'⟩ := hback
  have hlength := congrArg List.length hrest
  have hlength' := congrArg List.length hrest'
  rw [List.length_append, List.length_cons] at hlength hlength'
  omega

/-- The path with one more segment. -/
def child (path : SecretPath) (segment : String) : SecretPath :=
  ⟨path.asStr ++ "." ++ segment⟩

theorem toList_child (path : SecretPath) (segment : String) :
    (path.child segment).asStr.toList = path.asStr.toList ++ '.' :: segment.toList := by
  rw [child, String.toList_append, String.toList_append, List.append_assoc]
  rfl

/-- A child is below its parent. -/
theorem child_below (path : SecretPath) (segment : String) :
    (path.child segment).below path = true := by
  rw [below_iff]
  exact ⟨segment.toList, toList_child path segment⟩

/-- A valid path has valid children. -/
theorem Valid.child {path : SecretPath} (h : path.Valid) {segment : String}
    (hsegment : ∀ part ∈ segment.toList.splitOn '.', isSecretSegment part = true) :
    (path.child segment).Valid := by
  intro part hpart
  rw [toList_child, List.splitOn_append_cons_self] at hpart
  cases List.mem_append.mp hpart with
  | inl hbefore => exact h part hbefore
  | inr hafter => exact hsegment part hafter

/-- A domain with a child that is below another domain is that domain or below it: the rest of the
child ends with its segment, and what is before that with a dot. -/
theorem below_of_child_below {granted requested : SecretPath}
    (h : (granted.child "a").below requested = true) :
    granted = requested ∨ granted.below requested = true := by
  rw [below_iff] at h ⊢
  obtain ⟨rest, hrest⟩ := h
  have hchild : (granted.child "a").asStr.toList = granted.asStr.toList ++ ['.'] ++ ['a'] := by
    rw [toList_child, List.append_assoc]
    rfl
  rw [hchild] at hrest
  cases rest.eq_nil_or_concat' with
  | inl hnil =>
      rw [hnil] at hrest
      cases (List.append_inj' hrest rfl).2
  | inr hconcat =>
      obtain ⟨init, last, rfl⟩ := hconcat
      rw [← List.cons_append, ← List.append_assoc] at hrest
      have hdot := (List.append_inj' hrest rfl).1
      cases init.eq_nil_or_concat' with
      | inl hnil =>
          rw [hnil] at hdot
          have hsame : granted.asStr = requested.asStr :=
            String.toList_inj.mp (List.append_inj' hdot rfl).1
          exact .inl (congrArg SecretPath.mk hsame)
      | inr hconcat =>
          obtain ⟨init, last, rfl⟩ := hconcat
          rw [← List.cons_append, ← List.append_assoc] at hdot
          exact .inr ⟨init, (List.append_inj' hdot rfl).1⟩

end SecretPath

/-- A valid path. -/
abbrev CanonicalPath := {path : SecretPath // path.Valid}

/-- A valid pattern. -/
abbrev CanonicalPattern := {pattern : SecretPathPattern // pattern.Valid}

namespace SecretPathPattern

/-! ## Containment -/

/-- A pattern that authorizes another one permits every path that the other one does. -/
theorem matches_of_allowsPattern {requested granted : SecretPathPattern} {path : SecretPath}
    (hallows : requested.allowsPattern granted = true) (hmatches : granted.matches path = true) :
    requested.matches path = true := by
  cases requested with
  | exact requested =>
      cases granted with
      | exact granted =>
          rw [eq_of_beq hallows]
          exact hmatches
      | descendants granted => cases hallows
  | descendants requested =>
      cases granted with
      | exact granted =>
          rw [← eq_of_beq hmatches]
          exact hallows
      | descendants granted =>
          rw [allowsPattern, Bool.or_eq_true, beq_iff_eq] at hallows
          cases hallows with
          | inl hsame =>
              rw [← hsame]
              exact hmatches
          | inr hbelow => exact SecretPath.below_trans hmatches hbelow

/-- A pattern that permits every valid path of another one authorizes it. A domain is tried with two
different children, as one path cannot be both of them. -/
theorem allowsPattern_of_matches {requested granted : SecretPathPattern} (hgranted : granted.Valid)
    (h : ∀ path : CanonicalPath, granted.matches path.1 = true →
      requested.matches path.1 = true) : requested.allowsPattern granted = true := by
  have hsegment : ∀ segment ∈ ["a", "b"], ∀ part ∈ segment.toList.splitOn '.',
      isSecretSegment part = true := by
    decide +kernel
  cases granted with
  | exact granted =>
      have hself := h ⟨granted, hgranted⟩ (beq_self_eq_true granted)
      cases requested with
      | exact requested => exact hself
      | descendants requested => exact hself
  | descendants granted =>
      have hvalid : granted.Valid := hgranted
      have hfirst := h ⟨granted.child "a", hvalid.child (hsegment "a" List.mem_cons_self)⟩
        (granted.child_below "a")
      cases requested with
      | exact requested =>
          have hsecond := h ⟨granted.child "b",
            hvalid.child (hsegment "b" (List.mem_cons_of_mem _ List.mem_cons_self))⟩
            (granted.child_below "b")
          have hsame : granted.child "a" = granted.child "b" :=
            (eq_of_beq hfirst).symm.trans (eq_of_beq hsecond)
          have hchars := congrArg (fun path => path.asStr.toList) hsame
          simp only [SecretPath.toList_child] at hchars
          cases List.append_cancel_left hchars
      | descendants requested =>
          rw [allowsPattern, Bool.or_eq_true, beq_iff_eq]
          exact SecretPath.below_of_child_below hfirst

/-- A pattern allows itself. -/
theorem allowsPattern_refl (pattern : SecretPathPattern) :
    pattern.allowsPattern pattern = true := by
  cases pattern with
  | exact path => exact beq_self_eq_true path
  | descendants path =>
      rw [allowsPattern, beq_self_eq_true]
      rfl

/-- Patterns that allow each other are the same. -/
theorem allowsPattern_antisymm {first second : SecretPathPattern}
    (h : first.allowsPattern second = true) (hback : second.allowsPattern first = true) :
    first = second := by
  cases first with
  | exact first =>
      cases second with
      | exact second => rw [eq_of_beq h]
      | descendants second => cases h
  | descendants first =>
      cases second with
      | exact second => cases hback
      | descendants second =>
          rw [allowsPattern, Bool.or_eq_true, beq_iff_eq] at h hback
          cases h with
          | inl hsame => rw [hsame]
          | inr hbelow =>
              cases hback with
              | inl hsame => rw [hsame]
              | inr hbelow' =>
                  rw [SecretPath.below_asymm hbelow] at hbelow'
                  cases hbelow'

/-! ## Displays -/

/-- No star is in a valid path. -/
theorem not_mem_star {path : SecretPath} (h : path.Valid) : '*' ∉ path.asStr.toList := by
  intro hstar
  cases h.mem hstar with
  | inl hdot => revert hdot; decide
  | inr hsecret => revert hsecret; decide

/-- A text with a star in no place has no wildcard at its end. -/
theorem dropSuffix?_eq_none {text : List Char} (h : '*' ∉ text) :
    text.dropSuffix? ".*".toList = none := by
  cases hdrop : text.dropSuffix? ".*".toList with
  | none => rfl
  | some domain =>
      obtain ⟨suffix, htext, hsuffix⟩ := List.dropSuffix?_eq_some_iff.mp hdrop
      refine absurd ?_ h
      rw [htext, eq_of_beq hsuffix]
      exact List.mem_append_right _ (List.mem_cons_of_mem _ List.mem_cons_self)

/-- A displayed pattern is parsed again. -/
theorem parse_display {pattern : SecretPathPattern} (h : pattern.Valid) :
    parse pattern.display = .ok pattern := by
  cases pattern with
  | exact path =>
      have hvalid : path.Valid := h
      have hstar := not_mem_star hvalid
      rw [display, parse, dropSuffix?_eq_none hstar]
      dsimp only
      rw [if_neg (by rwa [List.contains_iff_mem]), hvalid.parse_asStr]
      rfl
  | descendants path =>
      have hvalid : path.Valid := h
      have hdrop : (path.asStr ++ ".*").toList.dropSuffix? ".*".toList =
          some path.asStr.toList :=
        List.dropSuffix?_eq_some_iff.mpr ⟨_, String.toList_append, beq_self_eq_true _⟩
      have hdomain : ¬ (path.asStr.toList.isEmpty || path.asStr.toList.contains '*') = true := by
        rw [Bool.or_eq_true, List.isEmpty_iff, List.contains_iff_mem, not_or]
        exact ⟨hvalid.ne_nil, not_mem_star hvalid⟩
      rw [display, parse, hdrop]
      dsimp only
      rw [if_neg hdomain, String.ofList_toList, hvalid.parse_asStr]

/-- A pattern is displayed as the text that it was parsed from, and it is valid. -/
theorem display_of_parse {value : String} {pattern : SecretPathPattern}
    (h : parse value = .ok pattern) : pattern.display = value ∧ pattern.Valid := by
  rw [parse] at h
  split at h
  · next domain hdrop =>
      obtain ⟨suffix, hvalue, hsuffix⟩ := List.dropSuffix?_eq_some_iff.mp hdrop
      split at h
      · cases h
      · split at h
        · cases h
        · next path hpath =>
            cases h
            rw [SecretPath.parse_eq_ok_iff] at hpath
            obtain ⟨htext, hvalid⟩ := hpath
            refine ⟨?_, hvalid⟩
            rw [display, htext, ← String.toList_inj, String.toList_append, String.toList_ofList,
              hvalue, eq_of_beq hsuffix]
  · split at h
    · cases h
    · cases hpath : SecretPath.parse value with
      | error error =>
          rw [hpath] at h
          cases h
      | ok path =>
          rw [hpath] at h
          cases h
          rw [SecretPath.parse_eq_ok_iff] at hpath
          exact hpath

/-- One valid pattern authorizes another one exactly when it permits every valid path of it.
So authorizing is a partial order, and patterns and their texts determine one another. -/
theorem pattern_containment_exact :
    (∀ requested granted : CanonicalPattern, requested.1.allowsPattern granted.1 = true ↔
        ∀ path : CanonicalPath, granted.1.matches path.1 = true →
          requested.1.matches path.1 = true) ∧
      (∀ pattern : CanonicalPattern, pattern.1.allowsPattern pattern.1 = true) ∧
      (∀ first second : CanonicalPattern, first.1.allowsPattern second.1 = true →
        second.1.allowsPattern first.1 = true → first = second) ∧
      (∀ first second third : CanonicalPattern, first.1.allowsPattern second.1 = true →
        second.1.allowsPattern third.1 = true → first.1.allowsPattern third.1 = true) ∧
      (∀ pattern : CanonicalPattern, parse pattern.1.display = .ok pattern.1) ∧
      ∀ value pattern, parse value = .ok pattern → pattern.display = value ∧ pattern.Valid := by
  refine ⟨fun requested granted => ⟨fun hallows path => matches_of_allowsPattern hallows,
      allowsPattern_of_matches granted.2⟩, fun pattern => allowsPattern_refl pattern.1,
    fun first second h hback => Subtype.ext (allowsPattern_antisymm h hback),
    fun first second third h h' => ?_, fun pattern => parse_display pattern.2,
    fun value pattern => display_of_parse⟩
  apply allowsPattern_of_matches third.2
  intro path hpath
  exact matches_of_allowsPattern h (matches_of_allowsPattern h' hpath)

end SecretPathPattern

end Rintawa.Sdk
