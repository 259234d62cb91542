import TrafficWatch.Proofs.Json.Lexing
import TrafficWatch.Proofs.Json.Texts

/-!
Written values. However a value is laid out, as long as only blanks stand between its parts, it is
read as the same document.
-/

namespace TrafficWatch.Json

mutual
/-- What a value is read as once it is written. A number that may come back changed has no place in
a document without faults. -/
def Value.doc : Value → Doc
  | .null => .null
  | .bool b => .bool b
  | .integer i =>
    if 0 ≤ i ∧ i ≤ maxSignificand then .number ⟨.ok (.integer i), none⟩ else .broken .malformed
  | .real _ => .broken .malformed
  | .text s => .text ⟨.ok s, none⟩
  | .list vs => .list (Value.itemDocs vs) .closed
  | .object ms => .object (Value.memberDocs ms) .closed

def Value.itemDocs : List Value → List Doc
  | [] => []
  | v :: vs => v.doc :: Value.itemDocs vs

def Value.memberDocs : List (String × Value) → List Member
  | [] => []
  | (k, v) :: ms => (.ok k, v.doc) :: Value.memberDocs ms
end

namespace Value

theorem itemDocs_eq_map (vs : List Value) : itemDocs vs = vs.map doc := by
  induction vs with
  | nil => rfl
  | cons v vs ih => rw [itemDocs, ih, List.map_cons]

theorem doc_nat {n : Nat} (hn : n ≤ maxSignificand) :
    (Value.nat n).doc = .number ⟨.ok (.integer n), none⟩ := by
  have hrange : 0 ≤ (n : Int) ∧ (n : Int) ≤ (maxSignificand : Int) :=
    ⟨Int.natCast_nonneg n, Int.ofNat_le.mpr hn⟩
  rw [Value.nat, doc, if_pos hrange]

/-- Only blanks stand between the parts. -/
structure Layout.Blank (l : Layout) : Prop where
  before : ∀ depth, ∀ c ∈ (l.before depth).toList, isSpace c = true
  afterColon : ∀ c ∈ l.afterColon.toList, isSpace c = true

theorem blank_compact : compact.Blank := ⟨nofun, nofun⟩

theorem blank_pretty : pretty.Blank := by
  refine ⟨fun depth c hc => ?_, fun c hc => ?_⟩
  · have hwritten : (pretty.before depth).toList = '\n' :: List.replicate (2 * depth) ' ' := by
      simp [pretty]
    rw [hwritten, List.mem_cons] at hc
    obtain rfl | hc := hc
    · rfl
    · rw [List.eq_of_mem_replicate hc]
      rfl
  · have hwritten : pretty.afterColon.toList = [' '] := rfl
    rw [hwritten, List.mem_singleton] at hc
    rw [hc]
    rfl

end Value

theorem NumberEnds.blanks {blanks rest : List Char} (h : NumberEnds rest)
    (hblanks : ∀ c ∈ blanks, isSpace c = true) : NumberEnds (blanks ++ rest) := by
  cases blanks with
  | nil => exact h
  | cons c blanks =>
    have hc : c = ' ' ∨ c = '\n' ∨ c = '\t' ∨ c = '\r' := by
      simpa [isSpace, or_assoc] using hblanks c List.mem_cons_self
    obtain rfl | rfl | rfl | rfl := hc <;> exact numberEnds_cons (by decide) _

namespace Value

variable {l : Layout} {rest : List Char}

theorem toList_writeItems_cons (depth : Nat) (v : Value) (vs : List Value) (rest : List Char) :
    (writeItems l depth (v :: vs)).toList ++ rest =
      ',' :: ((l.before depth).toList ++
        ((write l depth v).toList ++ ((writeItems l depth vs).toList ++ rest))) := by
  have hcomma : ",".toList = [','] := rfl
  simp only [writeItems, String.toList_append, hcomma, List.cons_append, List.nil_append,
    List.append_assoc]

theorem toList_writeMembers_cons (depth : Nat) (k : String) (v : Value)
    (ms : List (String × Value)) (rest : List Char) :
    (writeMembers l depth ((k, v) :: ms)).toList ++ rest =
      ',' :: ((l.before depth).toList ++ ((quote k).toList ++ (':' :: (l.afterColon.toList ++
        ((write l depth v).toList ++ ((writeMembers l depth ms).toList ++ rest)))))) := by
  have hcomma : ",".toList = [','] := rfl
  have hcolon : ":".toList = [':'] := rfl
  simp only [writeMembers, String.toList_append, hcomma, hcolon, List.cons_append, List.nil_append,
    List.append_assoc]

theorem toList_write_list (depth : Nat) (v : Value) (vs : List Value) (rest : List Char) :
    (write l depth (.list (v :: vs))).toList ++ rest =
      '[' :: ((l.before (depth + 1)).toList ++ ((write l (depth + 1) v).toList ++
        ((writeItems l (depth + 1) vs).toList ++ ((l.before depth).toList ++ ']' :: rest)))) := by
  have hopen : "[".toList = ['['] := rfl
  have hclose : "]".toList = [']'] := rfl
  simp only [write, String.toList_append, hopen, hclose, List.cons_append, List.nil_append,
    List.append_assoc]

theorem toList_write_object (depth : Nat) (k : String) (v : Value) (ms : List (String × Value))
    (rest : List Char) :
    (write l depth (.object ((k, v) :: ms))).toList ++ rest =
      '\x7b' :: ((l.before (depth + 1)).toList ++ ((quote k).toList ++
        (':' :: (l.afterColon.toList ++ ((write l (depth + 1) v).toList ++
          ((writeMembers l (depth + 1) ms).toList ++
            ((l.before depth).toList ++ '\x7d' :: rest))))))) := by
  have hopen : "\x7b".toList = ['\x7b'] := rfl
  have hclose : "\x7d".toList = ['\x7d'] := rfl
  have hcolon : ":".toList = [':'] := rfl
  simp only [write, String.toList_append, hopen, hclose, hcolon, List.cons_append, List.nil_append,
    List.append_assoc]

theorem numberEnds_items (h : NumberEnds rest) (depth : Nat) (vs : List Value) :
    NumberEnds ((writeItems l depth vs).toList ++ rest) := by
  cases vs with
  | nil => simpa [writeItems] using h
  | cons v vs =>
    rw [toList_writeItems_cons]
    exact numberEnds_cons (by decide) _

theorem numberEnds_members (h : NumberEnds rest) (depth : Nat) (ms : List (String × Value)) :
    NumberEnds ((writeMembers l depth ms).toList ++ rest) := by
  cases ms with
  | nil => simpa [writeMembers] using h
  | cons m ms =>
    rw [toList_writeMembers_cons]
    exact numberEnds_cons (by decide) _

theorem tokens_integer {i : Int} (hi : (Value.integer i).doc.Faultless) (h : NumberEnds rest) :
    tokens ((toString i).toList ++ rest) = (Value.integer i).doc.tokens ++ tokens rest := by
  rw [doc] at hi ⊢
  split at hi
  · next hrange =>
    obtain ⟨n, rfl⟩ := Int.eq_ofNat_of_zero_le hrange.1
    rw [if_pos hrange, tokens_nat (Int.ofNat_le.mp hrange.2) h]
    rfl
  · exact absurd hi (Doc.not_faultless_broken _)

mutual
/-- The tokens of a written value are those of its document, whatever follows the value. -/
theorem tokens_write (hl : l.Blank) (v : Value) (hv : v.doc.Faultless) (depth : Nat)
    {rest : List Char} (h : NumberEnds rest) :
    tokens ((write l depth v).toList ++ rest) = v.doc.tokens ++ tokens rest := by
  match v, hv with
  | .null, _ => exact tokens_null rest
  | .bool true, _ => exact tokens_true rest
  | .bool false, _ => exact tokens_false rest
  | .integer i, hi => exact tokens_integer hi h
  | .real x, hv => exact absurd hv (Doc.not_faultless_broken _)
  | .text s, _ => exact tokens_quote s rest
  | .list [], _ =>
    have hempty : "[]".toList = ['[', ']'] := rfl
    rw [write, hempty, List.cons_append, List.singleton_append, tokens_openList, tokens_closeList]
    rfl
  | .list (v :: vs), hv =>
    obtain ⟨hvs, -⟩ := Doc.faultless_list.mp hv
    rw [itemDocs, List.forall_mem_cons] at hvs
    have hend : NumberEnds ((l.before depth).toList ++ ']' :: rest) :=
      (numberEnds_cons (by decide) rest).blanks (hl.before depth)
    rw [toList_write_list, tokens_openList, tokens_blanks (hl.before (depth + 1)),
      tokens_write hl v hvs.1 (depth + 1) (numberEnds_items hend (depth + 1) vs),
      tokens_writeItems hl vs hvs.2 (depth + 1) hend, tokens_blanks (hl.before depth),
      tokens_closeList, doc, itemDocs, Doc.tokens]
    simp only [List.cons_append, List.nil_append, List.append_assoc]
  | .object [], _ =>
    have hempty : "\x7b\x7d".toList = ['\x7b', '\x7d'] := rfl
    rw [write, hempty, List.cons_append, List.singleton_append, tokens_openObject,
      tokens_closeObject]
    rfl
  | .object ((k, v) :: ms), hv =>
    obtain ⟨hms, -⟩ := Doc.faultless_object.mp hv
    rw [memberDocs, List.forall_mem_cons] at hms
    have hend : NumberEnds ((l.before depth).toList ++ '\x7d' :: rest) :=
      (numberEnds_cons (by decide) rest).blanks (hl.before depth)
    rw [toList_write_object, tokens_openObject, tokens_blanks (hl.before (depth + 1)),
      tokens_quote, tokens_colon, tokens_blanks hl.afterColon,
      tokens_write hl v hms.1 (depth + 1) (numberEnds_members hend (depth + 1) ms),
      tokens_writeMembers hl ms hms.2 (depth + 1) hend, tokens_blanks (hl.before depth),
      tokens_closeObject, doc, memberDocs, Doc.tokens]
    simp only [List.cons_append, List.nil_append, List.append_assoc]

theorem tokens_writeItems (hl : l.Blank) (vs : List Value) (hvs : ∀ d ∈ itemDocs vs, d.Faultless)
    (depth : Nat) {rest : List Char} (h : NumberEnds rest) :
    tokens ((writeItems l depth vs).toList ++ rest) =
      Doc.itemTokens (itemDocs vs) ++ tokens rest := by
  match vs, hvs with
  | [], _ => rfl
  | v :: vs, hvs =>
    rw [itemDocs, List.forall_mem_cons] at hvs
    rw [toList_writeItems_cons, tokens_comma, tokens_blanks (hl.before depth),
      tokens_write hl v hvs.1 depth (numberEnds_items h depth vs),
      tokens_writeItems hl vs hvs.2 depth h, itemDocs, Doc.itemTokens]
    simp only [List.cons_append, List.append_assoc]

theorem tokens_writeMembers (hl : l.Blank) (ms : List (String × Value))
    (hms : ∀ m ∈ memberDocs ms, m.2.Faultless) (depth : Nat) {rest : List Char}
    (h : NumberEnds rest) :
    tokens ((writeMembers l depth ms).toList ++ rest) =
      Doc.memberTokens (memberDocs ms) ++ tokens rest := by
  match ms, hms with
  | [], _ => rfl
  | (k, v) :: ms, hms =>
    rw [memberDocs, List.forall_mem_cons] at hms
    rw [toList_writeMembers_cons, tokens_comma, tokens_blanks (hl.before depth), tokens_quote,
      tokens_colon, tokens_blanks hl.afterColon,
      tokens_write hl v hms.1 depth (numberEnds_members h depth ms),
      tokens_writeMembers hl ms hms.2 depth h, memberDocs, Doc.memberTokens]
    simp only [List.cons_append, List.append_assoc]
end

/-- A written value is a text of its document. -/
theorem holds_write (hl : l.Blank) {v : Value} (hv : v.doc.Faultless) :
    Text.Holds (write l 0 v) v.doc := by
  refine ⟨hv, ?_⟩
  rw [← tokens_nil, ← tokens_write hl v hv 0 numberEnds_nil, List.append_nil]

end Value

end TrafficWatch.Json
