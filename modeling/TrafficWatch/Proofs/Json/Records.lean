import TrafficWatch.Json.Decode
import TrafficWatch.Proofs.Fallible
import TrafficWatch.Proofs.Json.Texts

/-!
Records read from documents. An object that gives all fields in their order is read as the list of
their values is. What the blank record has and each field keeps, all records have that are read.
-/

namespace TrafficWatch

variable {V E σ : Type}

namespace Field

theorem answersTo_name (f : Field V E σ) : f.answersTo f.name = true := by simp [answersTo]

/-- Reading the field does not spoil what records are to have. -/
def Keeps (P : σ → Prop) (f : Field V E σ) : Prop :=
  ∀ v r r', P r → f.read v r = .ok r' → P r'

theorem keeps_make {P : σ → Prop} {α : Type} {presence : Presence} {names : List String}
    {read : V → Except E α} {put : α → σ → σ}
    (h : ∀ v a r, read v = .ok a → P r → P (put a r)) :
    (make presence names read put).Keeps P := by
  intro v r r' hr hread
  obtain ⟨a, ha, rfl⟩ := map_eq_ok.mp hread
  exact h v a r ha hr

end Field

namespace Schema

/-- No field answers to the name of a later one. -/
def Proper (s : Schema V E σ) : Prop := s.fields.Pairwise fun f g => f.answersTo g.name = false

instance (s : Schema V E σ) : Decidable s.Proper :=
  inferInstanceAs (Decidable (s.fields.Pairwise fun f g => f.answersTo g.name = false))

variable {s : Schema V E σ}

theorem find?_name_of_pairwise {fs : List (Field V E σ)}
    (h : fs.Pairwise fun f g => f.answersTo g.name = false) {f : Field V E σ} (hf : f ∈ fs) :
    fs.find? (·.answersTo f.name) = some f := by
  induction fs with
  | nil => cases hf
  | cons g fs ih =>
    rw [List.pairwise_cons] at h
    obtain rfl | hf := List.mem_cons.mp hf
    · rw [List.find?_cons_of_pos (by exact f.answersTo_name)]
    · rw [List.find?_cons_of_neg (by simp [h.1 f hf]), ih h.2 hf]

theorem Proper.find?_name (h : s.Proper) {f : Field V E σ} (hf : f ∈ s.fields) :
    s.find? f.name = some f :=
  find?_name_of_pairwise h hf

theorem nodup_of_pairwise {fs : List (Field V E σ)}
    (h : fs.Pairwise fun f g => f.answersTo g.name = false) : (fs.map (·.name)).Nodup := by
  rw [List.nodup_iff_pairwise_ne, List.pairwise_map]
  refine h.imp fun {f g} hfg hname => ?_
  rw [← hname, f.answersTo_name] at hfg
  cases hfg

section Members

variable {rules : MemberRules V E} {r : σ} {seen : List String} {k : String} {v : V}

theorem readMember_unknown (hk : s.find? k = none) :
    s.readMember rules (r, seen) (.ok k, v) = (rules.skip v).map fun _ => (r, seen) := by
  simp only [readMember, bind, Except.bind, hk]
  cases rules.skip v <;> rfl

theorem readMember_known {f : Field V E σ} (hk : s.find? k = some f) (hnew : f.name ∉ seen) :
    s.readMember rules (r, seen) (.ok k, v) = (f.read v r).map fun r => (r, f.name :: seen) := by
  simp only [readMember, bind, Except.bind, hk, List.contains_eq_mem, hnew, decide_false,
    Bool.false_eq_true, ↓reduceIte]
  cases f.read v r <;> rfl

theorem readMember_repeated {f : Field V E σ} (hk : s.find? k = some f) (hold : f.name ∈ seen) :
    s.readMember rules (r, seen) (.ok k, v) = .error (rules.duplicate f.name) := by
  simp only [readMember, bind, Except.bind, hk, List.contains_eq_mem, hold, decide_true, ↓reduceIte]

end Members

/-- Members that give some of the fields, in their order. -/
def inOrder (fs : List (Field V E σ)) (vs : List V) : List (Except E String × V) :=
  List.zipWith (fun f v => (.ok f.name, v)) fs vs

theorem foldlM_inOrder (rules : MemberRules V E) (ending : Option E) (short : Nat → E)
    {fs : List (Field V E σ)} {vs : List V} (hlen : fs.length = vs.length)
    (hfind : ∀ f ∈ fs, s.find? f.name = some f) (hnodup : (fs.map (·.name)).Nodup) (i : Nat) (r : σ)
    (seen : List String) (hseen : ∀ f ∈ fs, f.name ∉ seen) :
    (inOrder fs vs).foldlM (s.readMember rules) (r, seen) =
      (readItems ending short i fs vs r).map fun r => (r, (fs.map (·.name)).reverse ++ seen) := by
  induction fs generalizing vs i r seen with
  | nil =>
    obtain rfl : vs = [] := List.length_eq_zero_iff.mp hlen.symm
    rfl
  | cons f fs ih =>
    obtain ⟨v, vs, rfl⟩ := List.exists_cons_of_length_eq_add_one hlen.symm
    rw [List.forall_mem_cons] at hfind hseen
    rw [List.map_cons, List.nodup_cons] at hnodup
    have hseen' : ∀ g ∈ fs, g.name ∉ f.name :: seen := fun g hg => by
      rw [List.mem_cons, not_or]
      exact ⟨fun h => hnodup.1 (h ▸ List.mem_map_of_mem hg), hseen.2 g hg⟩
    have hstep : (inOrder (f :: fs) (v :: vs)).foldlM (s.readMember rules) (r, seen) =
        (s.readMember rules (r, seen) (.ok f.name, v)).bind
          fun acc => (inOrder fs vs).foldlM (s.readMember rules) acc := rfl
    rw [hstep, readMember_known hfind.1 hseen.1, readItems]
    cases f.read v r with
    | error e => rfl
    | ok r' =>
      have hrest := ih (Nat.succ.inj hlen) hfind.2 hnodup.2 (i + 1) r' (f.name :: seen) hseen'
      simp only [Except.map, Except.bind, bind, hrest, List.map_cons, List.reverse_cons,
        List.append_assoc, List.singleton_append]

theorem Proper.readMembers_inOrder (h : s.Proper) (rules : MemberRules V E) (ending : Option E)
    (short : Nat → E) {vs : List V} (hlen : s.fields.length = vs.length) :
    s.readMembers rules (inOrder s.fields vs) none = readItems ending short 0 s.fields vs s.blank := by
  have hfold := foldlM_inOrder rules ending short hlen (fun f hf => h.find?_name hf)
    (nodup_of_pairwise h) 0 s.blank [] fun f _ => by simp
  have hnone : s.firstMissing (s.fields.map (·.name)).reverse = none := by
    simp only [firstMissing, Option.map_eq_none_iff, List.find?_eq_none]
    intro f hf
    have hname : f.name ∈ s.fields.map (·.name) := List.mem_map_of_mem hf
    simp [hname]
  rw [readMembers, hfold, List.append_nil]
  cases readItems ending short 0 s.fields vs s.blank with
  | error e => rfl
  | ok r => simp only [Except.map, bind, Except.bind, hnone]; rfl

section Keeps

variable {P : σ → Prop}

theorem readMember_keeps {rules : MemberRules V E} (h : ∀ f ∈ s.fields, f.Keeps P)
    (acc : σ × List String) (m : Except E String × V) (acc' : σ × List String) (hacc : P acc.1)
    (hread : s.readMember rules acc m = .ok acc') : P acc'.1 := by
  obtain ⟨key, -, hread⟩ := bind_eq_ok.mp hread
  split at hread
  · obtain ⟨-, -, hread⟩ := bind_eq_ok.mp hread
    cases hread
    exact hacc
  · next f hf =>
    split at hread
    · exact nomatch hread
    · obtain ⟨r, hr, hread⟩ := bind_eq_ok.mp hread
      cases hread
      exact h f (List.mem_of_find?_eq_some hf) _ _ _ hacc hr

theorem readItems_keeps {ending : Option E} {short : Nat → E} {fs : List (Field V E σ)}
    (h : ∀ f ∈ fs, f.Keeps P) {i : Nat} {vs : List V} {r r' : σ} (hr : P r)
    (hread : readItems ending short i fs vs r = .ok r') : P r' := by
  induction fs generalizing i vs r with
  | nil =>
    cases vs <;> cases hread <;> exact hr
  | cons f fs ih =>
    rw [List.forall_mem_cons] at h
    cases vs with
    | nil =>
      unfold readItems at hread
      split at hread
      · exact nomatch hread
      split at hread
      · exact ih h.2 hr hread
      · exact nomatch hread
    | cons v vs =>
      rw [readItems] at hread
      obtain ⟨r₁, hr₁, hread⟩ := bind_eq_ok.mp hread
      exact ih h.2 (h.1 v r r₁ hr hr₁) hread

end Keeps

end Schema

namespace Json

namespace Doc

variable {s : Schema Doc DecodeError σ}

/-- The object that gives the fields of a record in their order. -/
def objectOf (s : Schema Doc DecodeError σ) (ds : List Doc) : Doc :=
  .object (List.zipWith (fun f d => (.ok f.name, d)) s.fields ds) .closed

theorem asRecord_list {ds : List Doc} (hlen : s.fields.length = ds.length) :
    asRecord s (.list ds .closed) =
      Schema.readItems none (shortList s) 0 s.fields ds s.blank := by
  have hfit : ¬ s.fields.length < ds.length := by omega
  simp only [asRecord, hfit, ↓reduceIte, endingError, Ending.fault?, Option.map_none]
  cases Schema.readItems none (shortList s) 0 s.fields ds s.blank <;> rfl

theorem asRecord_objectOf (h : s.Proper) {ds : List Doc} (hlen : s.fields.length = ds.length) :
    asRecord s (objectOf s ds) = asRecord s (.list ds .closed) := by
  have hkeys : (List.zipWith (fun f d => (Except.ok f.name, d)) s.fields ds).map
      (fun m : Member => (liftFault m.1, m.2)) = Schema.inOrder s.fields ds := by
    rw [List.map_zipWith]
    rfl
  rw [asRecord_list hlen, ← h.readMembers_inOrder memberRules none (shortList s) hlen, ← hkeys]
  rfl

theorem asOption_of_ne_null {α : Type} {read : Doc → Except DecodeError α} {d : Doc}
    (hd : d ≠ .null) : asOption read d = (read d).map some := by
  cases d with
  | null => exact absurd rfl hd
  | _ => rfl

theorem orDefault_of_ne_null {α : Type} {default : α} {read : Doc → Except DecodeError α} {d : Doc}
    (hd : d ≠ .null) : orDefault default read d = read d := by
  rw [orDefault, asOption_of_ne_null hd]
  cases read d <;> rfl

theorem asOption_eq_ok {α : Type} {read : Doc → Except DecodeError α} {d : Doc} {o : Option α}
    (h : asOption read d = .ok o) : ∀ a ∈ o, read d = .ok a := by
  unfold asOption at h
  split at h
  · cases h
    exact nofun
  · obtain ⟨a, ha, rfl⟩ := map_eq_ok.mp h
    rintro _ ⟨⟩
    exact ha

theorem asList_eq_ok {α : Type} {read : Doc → Except DecodeError α} {d : Doc} {as : List α} :
    asList read d = .ok as ↔
      ∃ ds, d = .list ds .closed ∧ ds.mapM read = .ok as := by
  constructor
  · intro h
    unfold asList at h
    split at h
    · next ds e =>
      obtain ⟨as', hitems, h⟩ := bind_eq_ok.mp h
      cases e with
      | closed =>
        cases h
        exact ⟨ds, rfl, hitems⟩
      | cut f => exact nomatch h
      | cutAfterComma f => exact nomatch h
    · exact nomatch h
  · rintro ⟨ds, rfl, h⟩
    rw [asList, h]
    rfl

theorem asRecord_keeps {P : σ → Prop} (hblank : P s.blank) (h : ∀ f ∈ s.fields, f.Keeps P) {d : Doc}
    {r : σ} (hread : asRecord s d = .ok r) : P r := by
  unfold asRecord at hread
  split at hread
  · obtain ⟨⟨r', seen⟩, hfold, hread⟩ := bind_eq_ok.mp hread
    have hr : P r' := foldlM_keeps (P := fun acc => P acc.1) (Schema.readMember_keeps h) hblank hfold
    dsimp only at hread
    split at hread
    · exact nomatch hread
    · exact nomatch hread
    · cases hread
      exact hr
  · obtain ⟨r', hitems, hread⟩ := bind_eq_ok.mp hread
    have hr : P r' := Schema.readItems_keeps h hblank hitems
    split at hread
    · exact nomatch hread
    split at hread
    · cases hread
      exact hr
    · exact nomatch hread
    · exact nomatch hread
  · exact nomatch hread

/-- A record is read from nothing but a closed document. -/
theorem closed_of_asRecord (hread : asRecord s d = .ok r) : d.Closed := by
  cases d with
  | object ms e =>
    obtain ⟨_, -, hread⟩ := bind_eq_ok.mp hread
    cases e with
    | closed => rfl
    | cut f => exact nomatch hread
    | cutAfterComma f => exact nomatch hread
  | list ds e =>
    obtain ⟨_, -, hread⟩ := bind_eq_ok.mp hread
    split at hread
    · exact nomatch hread
    · cases e with
      | closed => rfl
      | cut f => exact nomatch hread
      | cutAfterComma f => exact nomatch hread
  | _ => exact nomatch hread

end Doc

variable {α : Type} {read : Doc → Except DecodeError α} {t : String}

theorem decode_of_holds {d : Doc} (ht : Text.Holds t d) {a : α} (h : read d = .ok a) :
    decode read t = .ok a := by
  rw [decode, ht.read]
  exact bind_eq_ok.mpr ⟨a, h, rfl⟩

theorem read_of_decode {a : α} (h : decode read t = .ok a) :
    read (Text.read t).doc = .ok a ∧ (Text.read t).trailing = false := by
  obtain ⟨b, hb, h⟩ := bind_eq_ok.mp h
  split at h
  · exact nomatch h
  · next htrailing =>
    cases h
    exact ⟨hb, Bool.eq_false_iff.mpr htrailing⟩

/-- A text that a record is read from is the text of a document. -/
theorem holds_of_decode {s : Schema Doc DecodeError σ} {r : σ}
    (h : decode (Doc.asRecord s) t = .ok r) :
    Text.Holds t (Text.read t).doc ∧ Doc.asRecord s (Text.read t).doc = .ok r := by
  obtain ⟨hread, htrailing⟩ := read_of_decode h
  exact ⟨Text.holds_of_read (by rw [← htrailing]) (Doc.closed_of_asRecord hread), hread⟩

end Json

end TrafficWatch
