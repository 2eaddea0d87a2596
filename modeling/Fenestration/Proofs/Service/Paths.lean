import Fenestration.Service.Route
import Mathlib.Data.List.TakeWhile

/-!
# Paths of products

Every product has a path that leads to it, whatever the document is called: the name is escaped,
and its escapes are escaped once more (`route?_path`).
-/

namespace Fenestration.Service

/-! ## Escapes -/

-- Any ASCII character is escaped, so that no character of a name can be taken for a part of the
-- path; the others are never taken for one.
def escape (c : Char) : List Char :=
  if c.toNat < 128 then ['%', (c.toNat / 16).digitChar, (c.toNat % 16).digitChar] else [c]

theorem hexDigit?_digitChar {n : Nat} (h : n < 16) : Json.hexDigit? n.digitChar = some n := by
  have hall : ∀ n < 16, Json.hexDigit? n.digitChar = some n := by decide
  exact hall n h

theorem unescape_cons {c : Char} (h : c ≠ '%') (rest : List Char) :
    unescape (c :: rest) = c :: unescape rest := by
  rw [unescape]
  exact fun _ _ _ heq => absurd heq h

theorem unescape_append {plain : List Char} (h : '%' ∉ plain) (rest : List Char) :
    unescape (plain ++ rest) = plain ++ unescape rest := by
  induction plain with
  | nil => rfl
  | cons c cs ih =>
    have hc : c ≠ '%' := fun heq => h (heq ▸ List.mem_cons_self)
    have hcs : '%' ∉ cs := fun hmem => h (List.mem_cons_of_mem c hmem)
    rw [List.cons_append, unescape_cons hc, ih hcs, List.cons_append]

theorem unescape_escape_append (c : Char) (rest : List Char) :
    unescape (escape c ++ rest) = c :: unescape rest := by
  by_cases hascii : c.toNat < 128
  · have hhigh : c.toNat / 16 < 8 := by omega
    have hlow : c.toNat % 16 < 16 := by omega
    have hcode : c.toNat / 16 * 16 + c.toNat % 16 = c.toNat := by omega
    rw [escape, if_pos hascii]
    simp only [List.cons_append, List.nil_append, unescape,
      hexDigit?_digitChar (Nat.lt_trans hhigh (by decide)), hexDigit?_digitChar hlow, if_pos hhigh,
      hcode, Char.ofNat_toNat]
  · have hpercent : c ≠ '%' := by
      rintro rfl
      exact hascii (by decide)
    rw [escape, if_neg hascii, List.singleton_append, unescape_cons hpercent]

theorem unescape_flatMap_escape (cs : List Char) : unescape (cs.flatMap escape) = cs := by
  induction cs with
  | nil => rfl
  | cons c cs ih => rw [List.flatMap_cons, unescape_escape_append, ih]

/-! ## Plain segments -/

-- The characters that part a reference or a path, and the dot, of which the segments that lead
-- back are made.
def delimiters : List Char :=
  ['/', ':', '?', '#', '.']

def IsPlain (segment : List Char) : Prop :=
  ∀ c ∈ segment, c ∉ delimiters

instance : DecidablePred IsPlain := fun segment =>
  List.decidableBAll (fun c => c ∉ delimiters) segment

theorem escape_isPlain (c : Char) : IsPlain (escape c) := by
  by_cases hascii : c.toNat < 128
  · have hdigit : ∀ n < 16, n.digitChar ∉ delimiters := by decide
    have hhigh : c.toNat / 16 < 16 := by omega
    have hlow : c.toNat % 16 < 16 := by omega
    rw [escape, if_pos hascii]
    intro d hd
    rcases List.mem_cons.mp hd with rfl | hd
    · decide
    · rcases List.mem_cons.mp hd with rfl | hd
      · exact hdigit _ hhigh
      · rw [List.mem_singleton.mp hd]
        exact hdigit _ hlow
  · have hcodes : delimiters.all (fun d => d.toNat < 128) = true := by decide
    rw [escape, if_neg hascii]
    intro d hd hdelimiter
    rw [List.mem_singleton.mp hd] at hdelimiter
    exact hascii (of_decide_eq_true (List.all_eq_true.mp hcodes c hdelimiter))

theorem flatMap_escape_isPlain (cs : List Char) : IsPlain (cs.flatMap escape) := by
  intro d hd
  obtain ⟨c, _, hmem⟩ := List.mem_flatMap.mp hd
  exact escape_isPlain c d hmem

theorem mem_intercalate_slash {segments : List (List Char)} {c : Char}
    (h : c ∈ ['/'].intercalate segments) : c = '/' ∨ ∃ segment ∈ segments, c ∈ segment := by
  induction segments with
  | nil => exact absurd h List.not_mem_nil
  | cons segment others ih =>
    cases others with
    | nil =>
      rw [List.intercalate_singleton] at h
      exact .inr ⟨segment, List.mem_cons_self, h⟩
    | cons next others =>
      rw [List.intercalate_cons_cons, List.append_assoc, List.mem_append] at h
      rcases h with hsegment | hothers
      · exact .inr ⟨segment, List.mem_cons_self, hsegment⟩
      · rcases List.mem_cons.mp hothers with hslash | hnext
        · exact .inl hslash
        · rcases ih hnext with hslash | ⟨other, hother, hc⟩
          · exact .inl hslash
          · exact .inr ⟨other, List.mem_cons_of_mem segment hother, hc⟩

-- No segment of a plain path leads back, so each is added as it is.
theorem foldl_addSegment {segments : List (List Char)} (h : ∀ segment ∈ segments, IsPlain segment)
    (before : List (List Char)) : segments.foldl addSegment before = before ++ segments := by
  induction segments generalizing before with
  | nil => rw [List.foldl_nil, List.append_nil]
  | cons segment rest ih =>
    have hdot : '.' ∉ segment := fun hmem =>
      h segment List.mem_cons_self '.' hmem (by decide)
    have hone : segment ≠ ['.'] := fun heq => hdot (heq ▸ List.mem_cons_self)
    have htwo : segment ≠ ['.', '.'] := fun heq => hdot (heq ▸ List.mem_cons_self)
    rw [List.foldl_cons, addSegment, if_neg hone, if_neg htwo,
      ih fun other hother => h other (List.mem_cons_of_mem segment hother), List.append_assoc,
      List.singleton_append]

theorem straighten_plain {segments : List (List Char)} (hne : segments ≠ [])
    (h : ∀ segment ∈ segments, IsPlain segment) :
    straighten (['/'].intercalate segments) = ['/'].intercalate segments := by
  have hslash : ∀ segment ∈ segments, '/' ∉ segment := fun segment hsegment hmem =>
    h segment hsegment '/' hmem (by decide)
  rw [straighten, List.splitOn_intercalate '/' hslash hne, foldl_addSegment h, List.nil_append]

-- A reference that begins with a single slash and holds no other delimiter is nothing but a path.
theorem ofText_eq_path {c : Char} {tail : List Char} (hc : c ≠ '/')
    (h : ∀ d ∈ '/' :: c :: tail, d ≠ '?' ∧ d ≠ '#' ∧ d ≠ ':') :
    Reference.ofText (String.ofList ('/' :: c :: tail)) = ⟨[], [], '/' :: c :: tail⟩ := by
  have hwhole : (('/' :: c :: tail).takeWhile fun d => d ≠ '?' && d ≠ '#') = '/' :: c :: tail := by
    rw [List.takeWhile_eq_self_iff]
    intro d hd
    simp [(h d hd).1, (h d hd).2.1]
  have hcolon : ('/' :: c :: tail).dropWhile (· ≠ ':') = [] := by
    rw [List.dropWhile_eq_nil_iff]
    intro d hd
    simp [(h d hd).2.2]
  have hscheme : Reference.splitScheme ('/' :: c :: tail) = ([], '/' :: c :: tail) := by
    rw [Reference.splitScheme, hcolon]
  have hauthority : Reference.splitAuthority ('/' :: c :: tail) = ([], '/' :: c :: tail) := by
    rw [Reference.splitAuthority]
    rintro others heq
    exact hc (List.cons.inj (List.cons.inj heq).2).1
  rw [Reference.ofText, String.toList_ofList, hwhole, hscheme]
  simp only [hauthority]

theorem exists_cons_of_intercalate (c : Char) (cs : List Char) (rest : List (List Char)) :
    ∃ tail, ['/'].intercalate ([] :: (c :: cs) :: rest) = '/' :: c :: tail := by
  rw [List.intercalate_cons_cons, List.nil_append, List.singleton_append]
  cases rest with
  | nil => exact ⟨cs, by rw [List.intercalate_singleton]⟩
  | cons next others =>
    rw [List.intercalate_cons_cons]
    exact ⟨cs ++ ['/'] ++ ['/'].intercalate (next :: others), rfl⟩

theorem head_ne_slash {c : Char} {cs : List Char} (h : IsPlain (c :: cs)) : c ≠ '/' := by
  rintro rfl
  exact h '/' List.mem_cons_self (by decide)

section Plain

variable {first : List Char} {rest : List (List Char)}

-- Plain segments, the first of them not empty, make a reference that is nothing but their path.
theorem ofText_plain (hfirst : first ≠ []) (h : ∀ segment ∈ [] :: first :: rest, IsPlain segment) :
    Reference.ofText (String.ofList (['/'].intercalate ([] :: first :: rest))) =
      ⟨[], [], ['/'].intercalate ([] :: first :: rest)⟩ := by
  obtain ⟨c, cs, rfl⟩ := List.exists_cons_of_ne_nil hfirst
  have hc := head_ne_slash (h _ (List.mem_cons_of_mem _ List.mem_cons_self))
  have hparts : ∀ d ∈ ['/'].intercalate ([] :: (c :: cs) :: rest),
      d ≠ '?' ∧ d ≠ '#' ∧ d ≠ ':' := by
    intro d hd
    rcases mem_intercalate_slash hd with rfl | ⟨segment, hsegment, hmem⟩
    · decide
    · have hplain := h segment hsegment d hmem
      simp only [delimiters, List.mem_cons, not_or] at hplain
      exact ⟨hplain.2.2.1, hplain.2.2.2.1, hplain.2.1⟩
  obtain ⟨tail, htail⟩ := exists_cons_of_intercalate c cs rest
  rw [htail] at hparts ⊢
  exact ofText_eq_path hc hparts

theorem straightPath_plain (hfirst : first ≠ [])
    (h : ∀ segment ∈ [] :: first :: rest, IsPlain segment) :
    (Reference.ofText (String.ofList (['/'].intercalate ([] :: first :: rest)))).straightPath =
      ['/'].intercalate ([] :: first :: rest) := by
  rw [ofText_plain hfirst h]
  have hstraight := straighten_plain (List.cons_ne_nil _ _) h
  obtain ⟨c, cs, rfl⟩ := List.exists_cons_of_ne_nil hfirst
  have hc := head_ne_slash (h _ (List.mem_cons_of_mem _ List.mem_cons_self))
  obtain ⟨tail, htail⟩ := exists_cons_of_intercalate c cs rest
  rw [htail] at hstraight ⊢
  have hwhole : Reference.isWhole ⟨[], [], '/' :: c :: tail⟩ = false := rfl
  have hbare : Reference.isBare ⟨[], [], '/' :: c :: tail⟩ = true := rfl
  have hbelow : belowRoot ('/' :: c :: tail) = '/' :: c :: tail := by
    rw [belowRoot, List.dropWhile_cons_of_pos (by decide), List.dropWhile_cons_of_neg (by simpa)]
  rw [Reference.straightPath, hwhole, hbare, if_neg Bool.false_ne_true, if_pos rfl, hbelow,
    hstraight]

end Plain

/-! ## The paths -/

/-- The name of a document is one segment of a path. -/
def Product.IsSegment : Product → Prop
  | .document name => name ≠ "" ∧ '/' ∉ name.toList
  | _ => True

/-- A path of a product. -/
def Product.path : Product → String
  | .calculate => "/api/calculate"
  | .production => "/api/production"
  | .document name =>
      "/api/documents/" ++ String.ofList ((name.toList.flatMap escape).flatMap escape)

theorem intercalate_documents (last : List Char) :
    ['/'].intercalate [[], "api".toList, "documents".toList, last] =
      "/api/documents/".toList ++ last := by
  simp [List.intercalate_cons_cons]

section Documents

variable (name : String)

theorem path_document :
    Product.path (.document name) = String.ofList (['/'].intercalate
      [[], "api".toList, "documents".toList, (name.toList.flatMap escape).flatMap escape]) := by
  rw [intercalate_documents, Product.path, String.ofList_append, String.ofList_toList]

theorem path_document_isPlain :
    ∀ segment ∈ [[], "api".toList, "documents".toList,
      (name.toList.flatMap escape).flatMap escape], IsPlain segment := by
  intro segment hsegment
  simp only [List.mem_cons, List.not_mem_nil, or_false] at hsegment
  rcases hsegment with rfl | rfl | rfl | rfl
  · decide
  · decide
  · decide
  · exact flatMap_escape_isPlain _

theorem segments_document (h : '/' ∉ name.toList) :
    segments (Product.path (.document name)) =
      [[], "api".toList, "documents".toList, name.toList] := by
  have hslash : ∀ segment ∈ [[], "api".toList, "documents".toList, name.toList],
      '/' ∉ segment := by
    simpa using h
  have hpercent : '%' ∉ "/api/documents/".toList := by decide
  rw [segments, path_document, straightPath_plain (by decide) (path_document_isPlain name),
    intercalate_documents, unescape_append hpercent, unescape_flatMap_escape,
    unescape_append hpercent, unescape_flatMap_escape, ← intercalate_documents,
    List.splitOn_intercalate '/' hslash (List.cons_ne_nil _ _)]

end Documents

/-- The path of a product leads to it. -/
theorem route?_path {product : Product} (h : product.IsSegment) :
    route? product.path = some (.product product) := by
  cases product with
  | calculate => decide
  | production => decide
  | document name =>
    have hname : name.toList ≠ [] := fun heq => h.1 (String.toList_inj.mp heq)
    rw [route?, segments_document name h.2]
    simp [hname]

theorem unknownScheme?_path (product : Product) :
    (Reference.ofText product.path).unknownScheme? = none := by
  cases product with
  | calculate => decide
  | production => decide
  | document name =>
    rw [path_document, ofText_plain (by decide) (path_document_isPlain name)]
    rfl

end Fenestration.Service
