/-
# The compact text of a JSON document

Rendering writes no white space, escapes only what it must, and lists object
members in the order the document holds them. The text determines the document:
no two documents render alike, and no rendering is a proper prefix of another
once a delimiter follows it.
-/

import Rintawa.Lib.Json

namespace Rintawa.Lib

/-! ## Strings -/

/-- One lowercase hexadecimal digit. -/
def hexChar (digit : Nat) : Char :=
  if digit < 10 then Char.ofNat (48 + digit) else Char.ofNat (87 + digit)

/-- The value of a lowercase hexadecimal digit. -/
def hexValue (c : Char) : Nat :=
  if c.toNat < 58 then c.toNat - 48 else c.toNat - 87

theorem hexValue_hexChar : ∀ digit < 16, hexValue (hexChar digit) = digit := by
  decide

/-- The characters written for one character of a string. -/
def escapeChar (c : Char) : List Char :=
  if c = '"' then ['\\', '"']
  else if c = '\\' then ['\\', '\\']
  else if c.toNat = 8 then ['\\', 'b']
  else if c.toNat = 12 then ['\\', 'f']
  else if c.toNat = 10 then ['\\', 'n']
  else if c.toNat = 13 then ['\\', 'r']
  else if c.toNat = 9 then ['\\', 't']
  else if c.toNat < 32 then
    ['\\', 'u', '0', '0', hexChar (c.toNat / 16), hexChar (c.toNat % 16)]
  else [c]

/-- Read back one escaped character together with the rest of the text. -/
def unescapeChar : List Char → Option (Char × List Char)
  | '\\' :: 'u' :: _ :: _ :: high :: low :: rest =>
      some (Char.ofNat (16 * hexValue high + hexValue low), rest)
  | '\\' :: 'b' :: rest => some (Char.ofNat 8, rest)
  | '\\' :: 'f' :: rest => some (Char.ofNat 12, rest)
  | '\\' :: 'n' :: rest => some (Char.ofNat 10, rest)
  | '\\' :: 'r' :: rest => some (Char.ofNat 13, rest)
  | '\\' :: 't' :: rest => some (Char.ofNat 9, rest)
  | '\\' :: c :: rest => some (c, rest)
  | c :: rest => some (c, rest)
  | [] => none

theorem ofNat_of_toNat_eq {c : Char} {n : Nat} (h : c.toNat = n) : Char.ofNat n = c := by
  rw [← h]
  exact Char.ofNat_toNat c

/-- A character that is no backslash stands for itself. -/
theorem unescapeChar_of_ne {c : Char} (h : c ≠ '\\') (rest : List Char) :
    unescapeChar (c :: rest) = some (c, rest) := by
  rw [unescapeChar]
  all_goals
    intros
    contradiction

/-- What is written for a character starts with a backslash, or is the character. -/
theorem escapeChar_cases (c : Char) :
    (∃ rest, escapeChar c = '\\' :: rest) ∨ c ≠ '"' ∧ c ≠ '\\' ∧ escapeChar c = [c] := by
  unfold escapeChar
  by_cases hquote : c = '"'
  · exact .inl ⟨_, if_pos hquote⟩
  rw [if_neg hquote]
  by_cases hbackslash : c = '\\'
  · exact .inl ⟨_, if_pos hbackslash⟩
  rw [if_neg hbackslash]
  iterate 6
    refine iteInduction (motive := fun written =>
      (∃ rest, written = '\\' :: rest) ∨ c ≠ '"' ∧ c ≠ '\\' ∧ written = [c])
      (fun _ => .inl ⟨_, rfl⟩) fun _ => ?_
  exact .inr ⟨hquote, hbackslash, rfl⟩

/-- A character that was escaped is read back. -/
theorem unescapeChar_escapeChar (c : Char) (rest : List Char) :
    unescapeChar (escapeChar c ++ rest) = some (c, rest) := by
  have hcode : ∀ {n : Nat}, c.toNat = n → some (Char.ofNat n, rest) = some (c, rest) :=
    fun hn => by rw [ofNat_of_toNat_eq hn]
  unfold escapeChar
  by_cases hquote : c = '"'
  · rw [if_pos hquote, hquote]
    rfl
  rw [if_neg hquote]
  by_cases hbackslash : c = '\\'
  · rw [if_pos hbackslash, hbackslash]
    rfl
  rw [if_neg hbackslash]
  iterate 5
    refine iteInduction (motive := fun written =>
      unescapeChar (written ++ rest) = some (c, rest)) hcode fun _ => ?_
  refine iteInduction (motive := fun written =>
    unescapeChar (written ++ rest) = some (c, rest)) (fun hcontrol => ?_) fun _ => ?_
  · have high := hexValue_hexChar (c.toNat / 16) (by omega)
    have low := hexValue_hexChar (c.toNat % 16) (by omega)
    refine hcode ?_
    rw [high, low]
    omega
  · exact unescapeChar_of_ne hbackslash rest

theorem escapeChar_ne_quote (c : Char) (rest : List Char) :
    (escapeChar c ++ rest).head? ≠ some '"' := by
  rcases escapeChar_cases c with ⟨written, hescaped⟩ | ⟨hquote, -, hescaped⟩
  · rw [hescaped, List.cons_append, List.head?_cons]
    decide
  · rw [hescaped, List.cons_append, List.head?_cons]
    exact fun hsame => hquote (Option.some.inj hsame)

/-- The body of a string together with its closing quote. -/
def renderStringBody : List Char → List Char
  | [] => ['"']
  | c :: cs => escapeChar c ++ renderStringBody cs

/-- A quoted string. -/
def renderString (s : String) : List Char :=
  '"' :: renderStringBody s.toList

/-- The text of a string ends where its quote does, so that it can be told from what follows. -/
theorem renderStringBody_cancel : ∀ (cs ds : List Char) {r r' : List Char},
    renderStringBody cs ++ r = renderStringBody ds ++ r' → cs = ds ∧ r = r'
  | [], [], r, r', h => by simpa [renderStringBody] using h
  | [], d :: ds, r, r', h => by
      have hhead := escapeChar_ne_quote d (renderStringBody ds ++ r')
      simp only [renderStringBody, List.append_assoc] at h
      rw [← h] at hhead
      exact absurd rfl hhead
  | c :: cs, [], r, r', h => by
      have hhead := escapeChar_ne_quote c (renderStringBody cs ++ r)
      simp only [renderStringBody, List.append_assoc] at h
      rw [h] at hhead
      exact absurd rfl hhead
  | c :: cs, d :: ds, r, r', h => by
      simp only [renderStringBody, List.append_assoc] at h
      have hread := congrArg unescapeChar h
      rw [unescapeChar_escapeChar, unescapeChar_escapeChar] at hread
      simp only [Option.some.injEq, Prod.mk.injEq] at hread
      obtain ⟨rfl, htail⟩ := hread
      obtain ⟨rfl, rfl⟩ := renderStringBody_cancel cs ds htail
      exact ⟨rfl, rfl⟩

theorem renderString_cancel {s t : String} {r r' : List Char}
    (h : renderString s ++ r = renderString t ++ r') : s = t ∧ r = r' := by
  have hbody : renderStringBody s.toList ++ r = renderStringBody t.toList ++ r' := by
    simpa [renderString] using h
  obtain ⟨hlist, hrest⟩ := renderStringBody_cancel _ _ hbody
  exact ⟨String.toList_inj.mp hlist, hrest⟩

/-! ## Numbers -/

/-- The text of a number. -/
def JsonNumber.render : JsonNumber → List Char
  | .int value =>
      if value < 0 then '-' :: Nat.toDigits 10 value.natAbs
      else Nat.toDigits 10 value.natAbs
  | .float text => text.chars

theorem isNumberChar_of_isDigit {c : Char} (h : c.isDigit = true) : isNumberChar c = true := by
  simp [isNumberChar, h]

theorem not_isFractionChar_of_isDigit {c : Char} (h : c.isDigit = true) :
    isFractionChar c = false := by
  simp only [isFractionChar, Bool.or_eq_false_iff, beq_eq_false_iff_ne]
  constructor <;> (rintro rfl; revert h; decide)

theorem isDigit_of_mem_toDigits {n : Nat} {c : Char} (h : c ∈ Nat.toDigits 10 n) :
    c.isDigit = true :=
  Nat.isDigit_of_mem_toDigits (by decide) (by decide) h

theorem toDigits_injective {m n : Nat} (h : Nat.toDigits 10 m = Nat.toDigits 10 n) :
    m = n := by
  rw [← Nat.ofDigitChars_ten_toDigits (n := m), h, Nat.ofDigitChars_ten_toDigits]

theorem JsonNumber.isNumberChar_of_mem_render {n : JsonNumber} {c : Char}
    (h : c ∈ n.render) : isNumberChar c = true := by
  cases n with
  | int value =>
      simp only [JsonNumber.render] at h
      split at h
      · rcases List.mem_cons.mp h with rfl | htail
        · decide
        · exact isNumberChar_of_isDigit (isDigit_of_mem_toDigits htail)
      · exact isNumberChar_of_isDigit (isDigit_of_mem_toDigits h)
  | float text => exact List.all_eq_true.mp text.onlyNumberChars c h

theorem JsonNumber.render_ne_nil (n : JsonNumber) : n.render ≠ [] := by
  cases n with
  | int value =>
      simp only [JsonNumber.render]
      split <;> simp
  | float text =>
      intro hnil
      have hfraction := text.hasFraction
      simp only [JsonNumber.render] at hnil
      simp [hnil] at hfraction

/-- An integer text carries neither a fraction nor an exponent. -/
theorem JsonNumber.no_fraction_of_int (value : Int) :
    (JsonNumber.int value).render.any isFractionChar = false := by
  rw [List.any_eq_false]
  intro c hc
  simp only [JsonNumber.render] at hc
  split at hc
  · rcases List.mem_cons.mp hc with rfl | htail
    · decide
    · simp [not_isFractionChar_of_isDigit (isDigit_of_mem_toDigits htail)]
  · simp [not_isFractionChar_of_isDigit (isDigit_of_mem_toDigits hc)]

theorem JsonNumber.minus_ne_toDigits (m n : Nat) :
    '-' :: Nat.toDigits 10 m ≠ Nat.toDigits 10 n := by
  intro h
  have hmem : '-' ∈ Nat.toDigits 10 n := by
    rw [← h]
    exact List.mem_cons_self
  have hdigit := isDigit_of_mem_toDigits hmem
  revert hdigit
  decide

/-- The text of a number determines it. -/
theorem JsonNumber.render_injective {a b : JsonNumber} (h : a.render = b.render) : a = b := by
  cases a with
  | int x =>
      cases b with
      | int y =>
          simp only [JsonNumber.render] at h
          split at h <;> split at h
          · have habs := toDigits_injective (List.cons.inj h).2
            exact congrArg JsonNumber.int (by omega)
          · exact absurd h (JsonNumber.minus_ne_toDigits _ _)
          · exact absurd h.symm (JsonNumber.minus_ne_toDigits _ _)
          · have habs := toDigits_injective h
            exact congrArg JsonNumber.int (by omega)
      | float text =>
          have hnone := JsonNumber.no_fraction_of_int x
          rw [h] at hnone
          have hsome := text.hasFraction
          simp only [JsonNumber.render] at hnone
          simp [hsome] at hnone
  | float text =>
      cases b with
      | int y =>
          have hnone := JsonNumber.no_fraction_of_int y
          rw [← h] at hnone
          have hsome := text.hasFraction
          simp only [JsonNumber.render] at hnone
          simp [hsome] at hnone
      | float other =>
          obtain ⟨chars, _, _⟩ := text
          obtain ⟨chars', _, _⟩ := other
          simp only [JsonNumber.render] at h
          subst h
          rfl

/-- The text after a value does not continue a number. -/
def Delimited (rest : List Char) : Prop :=
  ∀ c ∈ rest.head?, isNumberChar c = false

/-- A number is read up to its delimiter. -/
theorem takeWhile_number {n : JsonNumber} {rest : List Char} (hrest : Delimited rest) :
    (n.render ++ rest).takeWhile isNumberChar = n.render := by
  rw [List.takeWhile_append_of_pos fun _ => JsonNumber.isNumberChar_of_mem_render]
  cases rest with
  | nil => simp
  | cons c cs =>
      have hc : isNumberChar c = false := hrest c rfl
      simp [hc]

/-- The text of a number ends where its characters do. -/
theorem JsonNumber.render_cancel {a b : JsonNumber} {r r' : List Char}
    (hr : Delimited r) (hr' : Delimited r') (h : a.render ++ r = b.render ++ r') :
    a = b ∧ r = r' := by
  have htext : a.render = b.render := by
    rw [← takeWhile_number hr, h, takeWhile_number hr']
  refine ⟨JsonNumber.render_injective htext, ?_⟩
  rw [htext] at h
  exact List.append_cancel_left h

/-! ## Documents -/

namespace Json

mutual

/-- The compact text of a document. -/
def render : Json → List Char
  | .null => ['n', 'u', 'l', 'l']
  | .bool true => ['t', 'r', 'u', 'e']
  | .bool false => ['f', 'a', 'l', 's', 'e']
  | .number n => n.render
  | .string s => renderString s
  | .array [] => ['[', ']']
  | .array (item :: rest) => '[' :: (render item ++ renderItems rest)
  | .object [] => ['\x7b', '\x7d']
  | .object ((key, value) :: rest) =>
      '\x7b' :: (renderString key ++ ':' :: (render value ++ renderMembers rest))

/-- The items after the first one, with the closing bracket. -/
def renderItems : List Json → List Char
  | [] => [']']
  | item :: rest => ',' :: (render item ++ renderItems rest)

/-- The members after the first one, with the closing brace. -/
def renderMembers : List (String × Json) → List Char
  | [] => ['\x7d']
  | (key, value) :: rest =>
      ',' :: (renderString key ++ ':' :: (render value ++ renderMembers rest))

end

theorem delimited_renderItems (items : List Json) (r : List Char) :
    Delimited (renderItems items ++ r) := by
  cases items <;> simp [renderItems, Delimited] <;> decide

theorem delimited_renderMembers (members : List (String × Json)) (r : List Char) :
    Delimited (renderMembers members ++ r) := by
  cases members <;> simp [renderMembers, Delimited] <;> decide

/-- Which kind of document this is; the two booleans have different texts. -/
def shape : Json → Nat
  | .null => 0
  | .bool true => 1
  | .bool false => 2
  | .number _ => 3
  | .string _ => 4
  | .array _ => 5
  | .object _ => 6

/-- The kind of document that the first character of a text announces. -/
def shapeOfLead (c : Char) : Nat :=
  if isNumberChar c then 3
  else if c = 'n' then 0
  else if c = 't' then 1
  else if c = 'f' then 2
  else if c = '"' then 4
  else if c = '[' then 5
  else if c = '\x7b' then 6
  else 7

/-- The first character of a text tells the shape of the value. -/
theorem render_lead (j : Json) :
    ∃ c rest, render j = c :: rest ∧ shapeOfLead c = j.shape := by
  cases j with
  | null => exact ⟨'n', _, rfl, by decide⟩
  | bool b =>
      cases b with
      | true => exact ⟨'t', _, rfl, by decide⟩
      | false => exact ⟨'f', _, rfl, by decide⟩
  | number n =>
      obtain ⟨c, rest, htext⟩ := List.exists_cons_of_ne_nil n.render_ne_nil
      have hnumber : isNumberChar c = true :=
        JsonNumber.isNumberChar_of_mem_render (n := n) (by simp [htext])
      exact ⟨c, rest, by simp [render, htext], by simp [shapeOfLead, hnumber, shape]⟩
  | string s => exact ⟨'"', renderStringBody s.toList, rfl, rfl⟩
  | array items =>
      cases items with
      | nil => exact ⟨'[', _, rfl, rfl⟩
      | cons item rest => exact ⟨'[', _, rfl, rfl⟩
  | object members =>
      cases members with
      | nil => exact ⟨'\x7b', _, rfl, rfl⟩
      | cons member rest => exact ⟨'\x7b', _, rfl, rfl⟩

/-- Values with texts that begin in the same way have the same shape. -/
theorem shape_eq_of_render_append {a b : Json} {r r' : List Char}
    (h : render a ++ r = render b ++ r') : a.shape = b.shape := by
  obtain ⟨c, t, ha, hshape⟩ := render_lead a
  obtain ⟨d, t', hb, hshape'⟩ := render_lead b
  rw [ha, hb, List.cons_append, List.cons_append] at h
  rw [← hshape, ← hshape', (List.cons.inj h).1]

/-- No document starts with a closing bracket. -/
theorem render_append_ne_bracket (j : Json) (r r' : List Char) :
    render j ++ r ≠ ']' :: r' := by
  obtain ⟨c, t, hj, hshape⟩ := render_lead j
  intro h
  rw [hj, List.cons_append] at h
  have hlead : shapeOfLead ']' = j.shape := by rw [← (List.cons.inj h).1, hshape]
  have hseven : shapeOfLead ']' = 7 := by decide
  cases j with
  | bool b => cases b <;> simp [shape, hseven] at hlead
  | _ => simp [shape, hseven] at hlead

mutual

/-- A text together with a delimiter after it determines the document. -/
theorem render_cancel : ∀ (a b : Json) {r r' : List Char}, Delimited r → Delimited r' →
    render a ++ r = render b ++ r' → a = b ∧ r = r'
  | .null, b, r, r', _, _, h => by
      have hshape := shape_eq_of_render_append h
      cases b with
      | null => exact ⟨rfl, by simpa [render] using h⟩
      | bool b => cases b <;> simp [shape] at hshape
      | _ => simp [shape] at hshape
  | .bool x, b, r, r', _, _, h => by
      have hshape := shape_eq_of_render_append h
      cases b with
      | bool y =>
          cases x <;> cases y <;> simp [shape] at hshape
          · exact ⟨rfl, by simpa [render] using h⟩
          · exact ⟨rfl, by simpa [render] using h⟩
      | _ => cases x <;> simp [shape] at hshape
  | .number m, b, r, r', hr, hr', h => by
      have hshape := shape_eq_of_render_append h
      cases b with
      | number n =>
          obtain ⟨rfl, hrest⟩ := JsonNumber.render_cancel hr hr' (by simpa [render] using h)
          exact ⟨rfl, hrest⟩
      | bool b => cases b <;> simp [shape] at hshape
      | _ => simp [shape] at hshape
  | .string s, b, r, r', _, _, h => by
      have hshape := shape_eq_of_render_append h
      cases b with
      | string t =>
          obtain ⟨rfl, hrest⟩ := renderString_cancel (by simpa [render] using h)
          exact ⟨rfl, hrest⟩
      | bool b => cases b <;> simp [shape] at hshape
      | _ => simp [shape] at hshape
  | .array xs, b, r, r', hr, hr', h => by
      have hshape := shape_eq_of_render_append h
      cases b with
      | array ys =>
          match xs, ys with
          | [], [] => exact ⟨rfl, by simpa [render] using h⟩
          | [], y :: ys =>
              simp only [render, List.cons_append, List.nil_append, List.append_assoc,
                List.cons.injEq, true_and] at h
              exact absurd h.symm (render_append_ne_bracket y _ _)
          | x :: xs, [] =>
              simp only [render, List.cons_append, List.nil_append, List.append_assoc,
                List.cons.injEq, true_and] at h
              exact absurd h (render_append_ne_bracket x _ _)
          | x :: xs, y :: ys =>
              simp only [render, List.cons_append, List.append_assoc, List.cons.injEq,
                true_and] at h
              obtain ⟨rfl, hitems⟩ := render_cancel x y
                (delimited_renderItems xs r) (delimited_renderItems ys r') h
              obtain ⟨rfl, hrest⟩ := renderItems_cancel xs ys hitems
              exact ⟨rfl, hrest⟩
      | bool b => cases b <;> simp [shape] at hshape
      | _ => simp [shape] at hshape
  | .object xs, b, r, r', hr, hr', h => by
      have hshape := shape_eq_of_render_append h
      cases b with
      | object ys =>
          match xs, ys with
          | [], [] => exact ⟨rfl, by simpa [render] using h⟩
          | [], (key, value) :: ys => simp [render, renderString] at h
          | (key, value) :: xs, [] => simp [render, renderString] at h
          | (key, value) :: xs, (key', value') :: ys =>
              simp only [render, List.cons_append, List.append_assoc, List.cons.injEq,
                true_and] at h
              obtain ⟨rfl, hvalue⟩ := renderString_cancel h
              obtain ⟨rfl, hmembers⟩ := render_cancel value value'
                (delimited_renderMembers xs r) (delimited_renderMembers ys r')
                (List.cons.inj hvalue).2
              obtain ⟨rfl, hrest⟩ := renderMembers_cancel xs ys hmembers
              exact ⟨rfl, hrest⟩
      | bool b => cases b <;> simp [shape] at hshape
      | _ => simp [shape] at hshape

/-- The text of an array can be told from what follows. -/
theorem renderItems_cancel : ∀ (xs ys : List Json) {r r' : List Char},
    renderItems xs ++ r = renderItems ys ++ r' → xs = ys ∧ r = r'
  | [], [], _, _, h => ⟨rfl, by simpa [renderItems] using h⟩
  | [], y :: ys, _, _, h => by simp [renderItems] at h
  | x :: xs, [], _, _, h => by simp [renderItems] at h
  | x :: xs, y :: ys, r, r', h => by
      simp only [renderItems, List.cons_append, List.append_assoc, List.cons.injEq,
        true_and] at h
      obtain ⟨rfl, hitems⟩ := render_cancel x y
        (delimited_renderItems xs r) (delimited_renderItems ys r') h
      obtain ⟨rfl, hrest⟩ := renderItems_cancel xs ys hitems
      exact ⟨rfl, hrest⟩

/-- The text of an object can be told from what follows. -/
theorem renderMembers_cancel : ∀ (xs ys : List (String × Json)) {r r' : List Char},
    renderMembers xs ++ r = renderMembers ys ++ r' → xs = ys ∧ r = r'
  | [], [], _, _, h => ⟨rfl, by simpa [renderMembers] using h⟩
  | [], (_, _) :: ys, _, _, h => by simp [renderMembers] at h
  | (_, _) :: xs, [], _, _, h => by simp [renderMembers] at h
  | (key, value) :: xs, (key', value') :: ys, r, r', h => by
      simp only [renderMembers, List.cons_append, List.append_assoc, List.cons.injEq,
        true_and] at h
      obtain ⟨rfl, hvalue⟩ := renderString_cancel h
      obtain ⟨rfl, hmembers⟩ := render_cancel value value'
        (delimited_renderMembers xs r) (delimited_renderMembers ys r')
        (List.cons.inj hvalue).2
      obtain ⟨rfl, hrest⟩ := renderMembers_cancel xs ys hmembers
      exact ⟨rfl, hrest⟩

end

/-- The text of a document as a string. -/
def toText (j : Json) : String :=
  String.ofList (render j)

/-- The text determines the document, member order included. -/
theorem toText_injective : Function.Injective toText := by
  intro a b h
  have hnil : Delimited [] := by simp [Delimited]
  have htext : render a ++ [] = render b ++ [] := by
    simpa using String.ofList_injective h
  exact (render_cancel a b hnil hnil htext).1

end Json

end Rintawa.Lib
