import Mathlib.Data.List.Pairwise
import TrafficWatch.Proofs.Json.Records

/-!
Documents that say the same. The members of an object may change places, members that say nothing
may come and go, and the value of a field may itself be rewritten; the record that is read stays the
same, if its fields do not depend on each other.
-/

namespace TrafficWatch

variable {V E σ : Type}

namespace Field

/-- It does not matter which of two fields is read first. -/
def Commutes (f g : Field V E σ) : Prop :=
  ∀ v w r r', (f.read v r >>= g.read w) = .ok r' ↔ (g.read w r >>= f.read v) = .ok r'

instance : Std.Symm (Field.Commutes (V := V) (E := E) (σ := σ)) where
  symm _ _ h v w r r' := (h w v r r').symm

theorem make_read_eq_ok {α : Type} {presence : Presence} {names : List String}
    {read : V → Except E α} {put : α → σ → σ} {v : V} {r r' : σ} :
    (make presence names read put).read v r = .ok r' ↔ ∃ a, read v = .ok a ∧ put a r = r' :=
  map_eq_ok

theorem make_read_follows {α : Type} {presence : Presence} {names : List String}
    {read : V → Except E α} {put : α → σ → σ} {v v' : V}
    (h : ∀ a, read v = .ok a → read v' = .ok a) {r r' : σ}
    (hread : (make presence names read put).read v r = .ok r') :
    (make presence names read put).read v' r = .ok r' := by
  obtain ⟨a, ha, hput⟩ := make_read_eq_ok.mp hread
  exact make_read_eq_ok.mpr ⟨a, h a ha, hput⟩

theorem commutes_make {α β : Type} {p q : Presence} {ns ms : List String} {read : V → Except E α}
    {read' : V → Except E β} {put : α → σ → σ} {put' : β → σ → σ}
    (h : ∀ a b r, put' b (put a r) = put a (put' b r)) :
    (make p ns read put).Commutes (make q ms read' put') := by
  intro v w r r'
  simp only [bind_eq_ok, make_read_eq_ok]
  constructor
  · rintro ⟨_, ⟨a, ha, rfl⟩, b, hb, rfl⟩
    exact ⟨_, ⟨b, hb, rfl⟩, a, ha, (h a b r).symm⟩
  · rintro ⟨_, ⟨b, hb, rfl⟩, a, ha, rfl⟩
    exact ⟨_, ⟨a, ha, rfl⟩, b, hb, h a b r⟩

end Field

namespace Schema

/-- All fields may be left out, and none depends on another one. -/
structure Unordered (s : Schema V E σ) : Prop where
  proper : s.Proper
  commutes : s.fields.Pairwise Field.Commutes
  defaulted : ∀ f ∈ s.fields, f.presence = .defaulted

variable {s : Schema V E σ} {rules : MemberRules V E}

theorem mem_of_find? {key : String} {f : Field V E σ} (h : s.find? key = some f) : f ∈ s.fields :=
  List.mem_of_find?_eq_some h

theorem readMember_eq_ok {acc acc' : σ × List String} {m : Except E String × V} :
    s.readMember rules acc m = .ok acc' ↔ ∃ key, m.1 = .ok key ∧
      (s.find? key = none ∧ rules.skip m.2 = .ok () ∧ acc' = acc ∨
        ∃ f, s.find? key = some f ∧ f.name ∉ acc.2 ∧ ∃ r, f.read m.2 acc.1 = .ok r ∧
          acc' = (r, f.name :: acc.2)) := by
  obtain ⟨r, seen⟩ := acc
  obtain ⟨k, v⟩ := m
  cases k with
  | error e => exact ⟨nofun, by rintro ⟨_, ⟨⟩, _⟩⟩
  | ok key =>
    simp only [Except.ok.injEq, exists_eq_left']
    cases hk : s.find? key with
    | none =>
      rw [readMember_unknown hk, map_eq_ok]
      simp only [reduceCtorEq, false_and, exists_false, or_false, true_and]
      exact ⟨fun ⟨_, h, h'⟩ => ⟨h, h'.symm⟩, fun ⟨h, h'⟩ => ⟨(), h, h'.symm⟩⟩
    | some f =>
      simp only [reduceCtorEq, false_and, false_or, Option.some.injEq, exists_eq_left']
      by_cases hold : f.name ∈ seen
      · rw [readMember_repeated hk hold]
        exact ⟨nofun, fun h => absurd hold h.1⟩
      · rw [readMember_known hk hold, map_eq_ok]
        exact ⟨fun ⟨r', h, h'⟩ => ⟨hold, r', h, h'.symm⟩, fun ⟨_, r', h, h'⟩ => ⟨r', h, h'.symm⟩⟩

/-- The same record, from fields that have all been seen. -/
def Covers (acc acc' : σ × List String) : Prop := acc.1 = acc'.1 ∧ acc'.2 ⊆ acc.2

theorem Covers.refl (acc : σ × List String) : Covers acc acc := ⟨rfl, List.Subset.refl _⟩

theorem Covers.trans {a b c : σ × List String} (hab : Covers a b) (hbc : Covers b c) : Covers a c :=
  ⟨hab.1.trans hbc.1, List.Subset.trans hbc.2 hab.2⟩

/-- What was read may be read again by who has seen fewer fields. -/
theorem Covers.readMember (m : Except E String × V) {acc acc' c : σ × List String}
    (hacc : Covers acc acc') (h : s.readMember rules acc m = .ok c) :
    ∃ c', s.readMember rules acc' m = .ok c' ∧ Covers c c' := by
  obtain ⟨r, seen⟩ := acc
  obtain ⟨r', seen'⟩ := acc'
  obtain ⟨rfl, hseen⟩ : r = r' ∧ seen' ⊆ seen := hacc
  obtain ⟨key, hkey, ⟨hk, hskip, rfl⟩ | ⟨f, hk, hnew, r₁, hread, rfl⟩⟩ := readMember_eq_ok.mp h
  · exact ⟨(r, seen'), readMember_eq_ok.mpr ⟨key, hkey, .inl ⟨hk, hskip, rfl⟩⟩, rfl, hseen⟩
  · refine ⟨(r₁, f.name :: seen'), readMember_eq_ok.mpr ⟨key, hkey, .inr ?_⟩, rfl,
      List.cons_subset_cons _ hseen⟩
    exact ⟨f, hk, fun hold => hnew (hseen hold), r₁, hread, rfl⟩

theorem Unordered.readMember_swap (hs : s.Unordered) (m m' : Except E String × V)
    {acc c : σ × List String} (h : [m, m'].foldlM (s.readMember rules) acc = .ok c) :
    ∃ c', [m', m].foldlM (s.readMember rules) acc = .ok c' ∧ Covers c c' := by
  simp only [List.foldlM_cons, List.foldlM_nil, bind_eq_ok] at h ⊢
  obtain ⟨acc₁, hm, acc₂, hm', ⟨⟩⟩ := h
  obtain ⟨key, hkey, hm⟩ := readMember_eq_ok.mp hm
  obtain ⟨key', hkey', hm'⟩ := readMember_eq_ok.mp hm'
  obtain ⟨hk, hskip, rfl⟩ | ⟨f, hk, hnew, r₁, hread, rfl⟩ := hm
  · exact ⟨c, ⟨c, readMember_eq_ok.mpr ⟨key', hkey', hm'⟩, c,
      readMember_eq_ok.mpr ⟨key, hkey, .inl ⟨hk, hskip, rfl⟩⟩, rfl⟩, .refl c⟩
  obtain ⟨hk', hskip', rfl⟩ | ⟨g, hk', hnew', r₂, hread', rfl⟩ := hm'
  · exact ⟨_, ⟨acc, readMember_eq_ok.mpr ⟨key', hkey', .inl ⟨hk', hskip', rfl⟩⟩, _,
      readMember_eq_ok.mpr ⟨key, hkey, .inr ⟨f, hk, hnew, r₁, hread, rfl⟩⟩, rfl⟩, .refl _⟩
  · rw [List.mem_cons, not_or] at hnew'
    have hne : f ≠ g := fun hfg => hnew'.1 (hfg ▸ rfl)
    have hcomm : f.Commutes g :=
      hs.commutes.forall (mem_of_find? hk) (mem_of_find? hk') hne
    obtain ⟨r₁', hread₁, hread₂⟩ := bind_eq_ok.mp
      ((hcomm m.2 m'.2 acc.1 r₂).mp (bind_eq_ok.mpr ⟨r₁, hread, hread'⟩))
    refine ⟨_, ⟨_, readMember_eq_ok.mpr ⟨key', hkey', .inr ⟨g, hk', hnew'.2, r₁', hread₁, rfl⟩⟩, _,
      readMember_eq_ok.mpr ⟨key, hkey, .inr ⟨f, hk, ?_, r₂, hread₂, rfl⟩⟩, rfl⟩, rfl, ?_⟩
    · rw [List.mem_cons, not_or]
      exact ⟨Ne.symm hnew'.1, hnew⟩
    · exact List.cons_subset.mpr ⟨by simp, List.cons_subset.mpr ⟨by simp, by simp⟩⟩

/-- A key is a name of a field. -/
def Gives {E' : Type} (s : Schema V E σ) (f : Field V E σ) (key : Except E' String) : Prop :=
  ∃ name, key = .ok name ∧ s.find? name = some f

/-- The same record, from fields that have all been seen but one. -/
def CoversBut (name : String) (acc acc' : σ × List String) : Prop :=
  acc.1 = acc'.1 ∧ acc'.2 ⊆ name :: acc.2

/-- Who has seen one field more reads the same from members that do not give that field. -/
theorem Proper.foldlM_seen (hs : s.Proper) {f : Field V E σ} (hf : f ∈ s.fields)
    {ms : List (Except E String × V)} (hms : ∀ m ∈ ms, ¬ s.Gives f m.1) {r r' : σ}
    {seen seen' : List String} (h : ms.foldlM (s.readMember rules) (r, seen) = .ok (r', seen')) :
    ∃ seen', ms.foldlM (s.readMember rules) (r, f.name :: seen) = .ok (r', seen') := by
  have follow : ∀ m ∈ ms, ∀ {b b' c}, CoversBut f.name b b' → s.readMember rules b m = .ok c →
      ∃ c', s.readMember rules b' m = .ok c' ∧ CoversBut f.name c c' := by
    rintro m hm ⟨r, seen⟩ ⟨_, seen'⟩ c ⟨rfl, hseen⟩ hstep
    obtain ⟨key, hkey, ⟨hk, hskip, rfl⟩ | ⟨g, hk, hnew, r₁, hread, rfl⟩⟩ :=
      readMember_eq_ok.mp hstep
    · exact ⟨(r, seen'), readMember_eq_ok.mpr ⟨key, hkey, .inl ⟨hk, hskip, rfl⟩⟩, rfl, hseen⟩
    have hname : g.name ≠ f.name := fun hname => by
      have hgf : some g = some f := by
        rw [← hs.find?_name (mem_of_find? hk), hname, hs.find?_name hf]
      exact hms m hm ⟨key, hkey, hk.trans hgf⟩
    have hnew' : g.name ∉ seen' := fun hold => (List.mem_cons.mp (hseen hold)).elim hname hnew
    refine ⟨_, readMember_eq_ok.mpr ⟨key, hkey, .inr ⟨g, hk, hnew', r₁, hread, rfl⟩⟩, rfl, ?_⟩
    refine List.cons_subset.mpr ⟨by simp, fun n hn => ?_⟩
    obtain rfl | hn := List.mem_cons.mp (hseen hn)
    · exact List.mem_cons_self
    · exact List.mem_cons_of_mem _ (List.mem_cons_of_mem _ hn)
  have hone : CoversBut f.name (r, seen) (r, f.name :: seen) := ⟨rfl, List.Subset.refl _⟩
  obtain ⟨⟨_, seen''⟩, hfold, rfl, -⟩ := foldlM_follows follow hone h
  exact ⟨seen'', hfold⟩

/-- A member that leaves the blank record as it is. -/
def Idle (s : Schema V E σ) (rules : MemberRules V E) (m : Except E String × V) : Prop :=
  ∃ name, m.1 = .ok name ∧ (s.find? name = none ∧ rules.skip m.2 = .ok () ∨
    ∃ f, s.find? name = some f ∧ f.read m.2 s.blank = .ok s.blank)

namespace Unordered

variable {l l' : List (Except E String × V)} {m : Except E String × V} {r : σ}

theorem readMembers_eq_ok (hs : s.Unordered) :
    s.readMembers rules l none = .ok r ↔
      ∃ seen, l.foldlM (s.readMember rules) (s.blank, []) = .ok (r, seen) := by
  have hnone : ∀ seen, s.firstMissing seen = none := fun seen => by
    simp only [firstMissing, Option.map_eq_none_iff, List.find?_eq_none]
    intro f hf
    simp [hs.defaulted f hf]
  rw [readMembers, bind_eq_ok]
  simp only [hnone]
  constructor
  · rintro ⟨⟨_, seen⟩, h, h'⟩
    exact ⟨seen, Except.ok.inj h' ▸ h⟩
  · rintro ⟨seen, h⟩
    exact ⟨_, h, rfl⟩

theorem readMembers_perm (hs : s.Unordered) (hperm : l.Perm l')
    (h : s.readMembers rules l none = .ok r) : s.readMembers rules l' none = .ok r := by
  obtain ⟨seen, h⟩ := hs.readMembers_eq_ok.mp h
  obtain ⟨⟨_, seen'⟩, h', rfl, -⟩ := foldlM_perm Covers.refl Covers.trans
    (fun m => Covers.readMember m) hs.readMember_swap hperm h
  exact hs.readMembers_eq_ok.mpr ⟨seen', h'⟩

theorem readMembers_add (hs : s.Unordered) (hm : s.Idle rules m)
    (hnew : ∀ f, s.Gives f m.1 → ∀ m' ∈ l ++ l', ¬ s.Gives f m'.1)
    (h : s.readMembers rules (l ++ l') none = .ok r) :
    s.readMembers rules (l ++ m :: l') none = .ok r := by
  refine hs.readMembers_perm List.perm_middle.symm ?_
  obtain ⟨seen, h⟩ := hs.readMembers_eq_ok.mp h
  rw [hs.readMembers_eq_ok]
  simp only [List.foldlM_cons, bind_eq_ok]
  obtain ⟨name, hname, ⟨hk, hskip⟩ | ⟨f, hk, hread⟩⟩ := hm
  · exact ⟨seen, _, readMember_eq_ok.mpr ⟨name, hname, .inl ⟨hk, hskip, rfl⟩⟩, h⟩
  · obtain ⟨seen', h'⟩ := hs.proper.foldlM_seen (mem_of_find? hk) (hnew f ⟨name, hname, hk⟩) h
    exact ⟨seen', _, readMember_eq_ok.mpr
      ⟨name, hname, .inr ⟨f, hk, List.not_mem_nil, s.blank, hread, rfl⟩⟩, h'⟩

theorem readMembers_remove (hs : s.Unordered) (hm : s.Idle rules m)
    (h : s.readMembers rules (l ++ m :: l') none = .ok r) :
    s.readMembers rules (l ++ l') none = .ok r := by
  obtain ⟨seen, h⟩ := hs.readMembers_eq_ok.mp (hs.readMembers_perm List.perm_middle h)
  rw [hs.readMembers_eq_ok]
  rw [List.foldlM_cons] at h
  obtain ⟨acc, hstep, hrest⟩ := bind_eq_ok.mp h
  have hblank : acc.1 = s.blank := by
    obtain ⟨name, hname, hm⟩ := hm
    obtain ⟨_, hname', hstep⟩ := readMember_eq_ok.mp hstep
    obtain rfl := Except.ok.inj (hname.symm.trans hname')
    obtain ⟨-, -, rfl⟩ | ⟨f, hk, -, r₁, hread, rfl⟩ := hstep
    · rfl
    · obtain ⟨hk', -⟩ | ⟨g, hk', hread'⟩ := hm
      · exact nomatch hk'.symm.trans hk
      · obtain rfl := Option.some.inj (hk'.symm.trans hk)
        exact Except.ok.inj (hread.symm.trans hread')
  have hcovers : Covers acc (s.blank, []) := ⟨hblank, List.nil_subset _⟩
  obtain ⟨⟨_, seen'⟩, h', rfl, -⟩ := foldlM_follows (fun m _ => Covers.readMember m) hcovers hrest
  exact ⟨seen', h'⟩

theorem readMembers_value (hs : s.Unordered) {name : String} {f : Field V E σ} {v v' : V}
    (hk : s.find? name = some f) (hv : ∀ r r', f.read v r = .ok r' → f.read v' r = .ok r')
    (h : s.readMembers rules (l ++ (.ok name, v) :: l') none = .ok r) :
    s.readMembers rules (l ++ (.ok name, v') :: l') none = .ok r := by
  obtain ⟨seen, h⟩ := hs.readMembers_eq_ok.mp h
  rw [hs.readMembers_eq_ok]
  simp only [List.foldlM_append, List.foldlM_cons, bind_eq_ok] at h ⊢
  obtain ⟨acc, hfront, acc', hstep, hrest⟩ := h
  obtain ⟨_, ⟨⟩, ⟨hk', -⟩ | ⟨g, hk', hnew, r₁, hread, rfl⟩⟩ := readMember_eq_ok.mp hstep
  · exact nomatch hk.symm.trans hk'
  · obtain rfl := Option.some.inj (hk.symm.trans hk')
    exact ⟨seen, acc, hfront, _, readMember_eq_ok.mpr
      ⟨name, rfl, .inr ⟨f, hk, hnew, r₁, hv _ _ hread, rfl⟩⟩, hrest⟩

end Unordered

theorem readItems_value {ending : Option E} {short : Nat → E} {fs : List (Field V E σ)} {l l' : List V}
    {f : Field V E σ} {v v' : V} (hf : fs[l.length]? = some f)
    (hv : ∀ r r', f.read v r = .ok r' → f.read v' r = .ok r') {i : Nat} {r r' : σ}
    (h : readItems ending short i fs (l ++ v :: l') r = .ok r') :
    readItems ending short i fs (l ++ v' :: l') r = .ok r' := by
  induction l generalizing fs i r with
  | nil =>
    obtain ⟨fs, rfl⟩ : ∃ fs', fs = f :: fs' := by
      cases fs with
      | nil => cases hf
      | cons g fs =>
        cases hf
        exact ⟨fs, rfl⟩
    rw [List.nil_append, readItems] at h ⊢
    obtain ⟨r₁, hread, hrest⟩ := bind_eq_ok.mp h
    exact bind_eq_ok.mpr ⟨r₁, hv _ _ hread, hrest⟩
  | cons w l ih =>
    cases fs with
    | nil => cases hf
    | cons g fs =>
      rw [List.cons_append, readItems] at h ⊢
      obtain ⟨r₁, hread, hrest⟩ := bind_eq_ok.mp h
      exact bind_eq_ok.mpr ⟨r₁, hread, ih hf hrest⟩

theorem readItems_getElem? {ending : Option E} {short : Nat → E} {fs : List (Field V E σ)}
    {vs : List V} {n : Nat} {f : Field V E σ} {v : V} (hf : fs[n]? = some f) (hv : vs[n]? = some v)
    {i : Nat} {r r' : σ} (h : readItems ending short i fs vs r = .ok r') :
    ∃ r r', f.read v r = .ok r' := by
  induction n generalizing fs vs i r with
  | zero =>
    obtain ⟨fs, rfl⟩ : ∃ fs', fs = f :: fs' := List.head?_eq_some_iff.mp (List.head?_eq_getElem? ▸ hf)
    obtain ⟨vs, rfl⟩ : ∃ vs', vs = v :: vs' := List.head?_eq_some_iff.mp (List.head?_eq_getElem? ▸ hv)
    rw [readItems] at h
    obtain ⟨r₁, hread, -⟩ := bind_eq_ok.mp h
    exact ⟨r, r₁, hread⟩
  | succ n ih =>
    cases fs with
    | nil => cases hf
    | cons g fs =>
      cases vs with
      | nil => cases hv
      | cons w vs =>
        rw [readItems] at h
        obtain ⟨r₁, -, hrest⟩ := bind_eq_ok.mp h
        exact ih hf hv hrest

end Schema

namespace Json.Doc

variable {s : Schema Doc DecodeError σ} {nullable : List String} {inner : String → Doc → Doc → Prop}
variable {d d' : Doc} {r : σ}

/-- A member that says nothing: one with an unknown name, or a null for a field that may be null. -/
inductive Vacuous (s : Schema Doc DecodeError σ) (nullable : List String) : Member → Prop
  | unknown {name : String} {d : Doc} (hk : s.find? name = none) (hd : d.Faultless) :
      Vacuous s nullable (.ok name, d)
  | null {name : String} {f : Field Doc DecodeError σ} (hk : s.find? name = some f)
      (hnull : f.name ∈ nullable) : Vacuous s nullable (.ok name, .null)

/-- One rewriting step in a document that holds a record, as an object or as a list. What is `inner`
to a field may be rewritten in its value. -/
inductive Rewrites (s : Schema Doc DecodeError σ) (nullable : List String)
    (inner : String → Doc → Doc → Prop) : Doc → Doc → Prop
  | permute {ms ms' : List Member} (h : ms.Perm ms') :
      Rewrites s nullable inner (.object ms .closed) (.object ms' .closed)
  | add {l l' : List Member} {m : Member} (hm : Vacuous s nullable m)
      (hnew : ∀ f, s.Gives f m.1 → ∀ m' ∈ l ++ l', ¬ s.Gives f m'.1) :
      Rewrites s nullable inner (.object (l ++ l') .closed) (.object (l ++ m :: l') .closed)
  | remove {l l' : List Member} {m : Member} (hm : Vacuous s nullable m) :
      Rewrites s nullable inner (.object (l ++ m :: l') .closed) (.object (l ++ l') .closed)
  | member {l l' : List Member} {name : String} {f : Field Doc DecodeError σ} {d d' : Doc}
      (hk : s.find? name = some f) (h : inner f.name d d') :
      Rewrites s nullable inner (.object (l ++ (.ok name, d) :: l') .closed)
        (.object (l ++ (.ok name, d') :: l') .closed)
  | item {l l' : List Doc} {f : Field Doc DecodeError σ} {d d' : Doc}
      (hf : s.fields[l.length]? = some f) (h : inner f.name d d') :
      Rewrites s nullable inner (.list (l ++ d :: l') .closed) (.list (l ++ d' :: l') .closed)

theorem liftFault_eq_ok {α : Type} {x : Except Fault α} {a : α} :
    liftFault x = .ok a ↔ x = .ok a := by
  cases x with
  | error f => exact ⟨nofun, nofun⟩
  | ok b => exact ⟨fun h => congrArg _ (Except.ok.inj h), fun h => congrArg _ (Except.ok.inj h)⟩

theorem gives_liftFault {f : Field Doc DecodeError σ} {key : Except Fault String} :
    s.Gives f (liftFault key) ↔ s.Gives f key := by
  simp only [Schema.Gives, liftFault_eq_ok]

theorem Vacuous.idle (hnull : ∀ f ∈ s.fields, f.name ∈ nullable → f.read .null s.blank = .ok s.blank)
    {m : Member} (hm : Vacuous s nullable m) : s.Idle memberRules (liftFault m.1, m.2) := by
  cases hm with
  | unknown hk hd => exact ⟨_, rfl, .inl ⟨hk, liftFault_eq_ok.mpr hd⟩⟩
  | null hk hname => exact ⟨_, rfl, .inr ⟨_, hk, hnull _ (Schema.mem_of_find? hk) hname⟩⟩

/-- Rewriting a document does not change the record that is read from it. -/
theorem Rewrites.asRecord (hs : s.Unordered)
    (hnull : ∀ f ∈ s.fields, f.name ∈ nullable → f.read .null s.blank = .ok s.blank)
    (hinner : ∀ f ∈ s.fields, ∀ d d', inner f.name d d' →
      ∀ r r', f.read d r = .ok r' → f.read d' r = .ok r')
    (h : Rewrites s nullable inner d d') (hread : asRecord s d = .ok r) : asRecord s d' = .ok r := by
  cases h with
  | permute hperm => exact hs.readMembers_perm (hperm.map _) hread
  | @add l l' m hm hnew =>
    simp only [Doc.asRecord, List.map_append, List.map_cons] at hread ⊢
    refine hs.readMembers_add (hm.idle hnull) (fun f hf => ?_) hread
    rw [← List.map_append, List.forall_mem_map]
    intro m' hm' hgives
    exact hnew f (gives_liftFault.mp hf) m' hm' (gives_liftFault.mp hgives)
  | @remove l l' m hm =>
    simp only [Doc.asRecord, List.map_append, List.map_cons] at hread ⊢
    exact hs.readMembers_remove (hm.idle hnull) hread
  | @member l l' name f d d' hk h =>
    simp only [Doc.asRecord, List.map_append, List.map_cons] at hread ⊢
    exact hs.readMembers_value hk (hinner f (Schema.mem_of_find? hk) d d' h) hread
  | @item l l' f d d' hf h =>
    obtain ⟨r₁, hitems, hrest⟩ := bind_eq_ok.mp hread
    have hitems' := Schema.readItems_value hf
      (hinner f (List.mem_of_getElem? hf) d d' h) hitems
    refine bind_eq_ok.mpr ⟨r₁, hitems', ?_⟩
    simpa only [List.length_append, List.length_cons] using hrest

theorem Rewrites.closed (h : Rewrites s nullable inner d d') : d.Closed ∧ d'.Closed := by
  cases h <;> exact ⟨rfl, rfl⟩

theorem Closed.ne_null (hd : d.Closed) : d ≠ .null := by
  rintro rfl
  exact hd

theorem Rewrites.ne_null (h : Rewrites s nullable inner d d') : d ≠ .null ∧ d' ≠ .null :=
  ⟨h.closed.1.ne_null, h.closed.2.ne_null⟩

/-- A document gives a field of its record a value, by name or by place. -/
inductive Has (s : Schema Doc DecodeError σ) (name : String) : Doc → Doc → Prop
  | member {ms : List Member} {e : Ending} {key : String} {f : Field Doc DecodeError σ} {v : Doc}
      (hk : s.find? key = some f) (hname : f.name = name) (hm : (.ok key, v) ∈ ms) :
      Has s name (.object ms e) v
  | item {ds : List Doc} {e : Ending} {i : Nat} {f : Field Doc DecodeError σ} {v : Doc}
      (hf : s.fields[i]? = some f) (hname : f.name = name) (hv : ds[i]? = some v) :
      Has s name (.list ds e) v

theorem Has.read {name : String} {v : Doc} (h : Has s name d v) (hread : asRecord s d = .ok r) :
    ∃ f ∈ s.fields, f.name = name ∧ ∃ r r', f.read v r = .ok r' := by
  cases h with
  | @member ms e key f v hk hname hm =>
    obtain ⟨_, hfold, -⟩ := bind_eq_ok.mp hread
    obtain ⟨acc, acc', hstep⟩ := foldlM_step hfold (List.mem_map_of_mem hm)
    obtain ⟨_, ⟨⟩, ⟨hk', -⟩ | ⟨g, hk', -, r', hr', -⟩⟩ := Schema.readMember_eq_ok.mp hstep
    · exact nomatch hk.symm.trans hk'
    · obtain rfl := Option.some.inj (hk.symm.trans hk')
      exact ⟨f, Schema.mem_of_find? hk, hname, _, r', hr'⟩
  | @item ds e i f v hf hname hv =>
    obtain ⟨_, hitems, -⟩ := bind_eq_ok.mp hread
    exact ⟨f, List.mem_of_getElem? hf, hname, Schema.readItems_getElem? hf hv hitems⟩

end Json.Doc

end TrafficWatch
