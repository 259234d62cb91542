import TrafficWatch.Proofs.Json.Documents

/-!
Texts and the documents they hold. A text whose document is a list or object up to its closing
bracket consists of the tokens of that document, and of nothing else if nothing trails it.
-/

namespace TrafficWatch.Json

namespace Doc

/-- A list or object that was read up to its closing bracket. -/
def Closed : Doc → Prop
  | .list _ e => e = .closed
  | .object _ e => e = .closed
  | _ => False

theorem not_closed_collapse {d : Doc} (hd : ¬ d.Closed) (fs : List Frame) :
    ¬ (collapse d fs).Closed := by
  induction fs generalizing d with
  | nil => exact hd
  | cons frame fs ih =>
    cases frame with
    | list items => exact ih (by simp [Closed])
    | object ms key => cases key <;> exact ih (by simp [Closed])

theorem not_closed_abort (f : Fault) (a : Awaits) (fs : List Frame) : ¬ (abort f a fs).Closed := by
  cases fs with
  | nil => exact id
  | cons frame fs =>
    cases frame with
    | list items =>
      refine not_closed_collapse ?_ fs
      simp only [Closed]
      split <;> exact nofun
    | object ms key =>
      cases key with
      | none => exact not_closed_collapse (by simp [Closed]) fs
      | some k => exact not_closed_collapse id (.object ms (some k) :: fs)

section Building

variable {a : Awaits} {fs : List Frame} {ts rest : List Token} {d : Doc}

/-- A document that is closed was not broken off, so the text went on there. -/
theorem exists_cons_of_build (h : build a fs ts = (d, rest)) (hd : d.Closed) :
    ∃ t ts', ts = t :: ts' ∧ resume ts' (step a fs t) = (d, rest) := by
  cases ts with
  | nil =>
    rw [build] at h
    cases h
    exact absurd hd (not_closed_abort _ a fs)
  | cons t ts => exact ⟨t, ts, rfl, build_cons a fs t ts ▸ h⟩

theorem not_stopped {v : Doc} (hv : ¬ v.Closed) (hd : d.Closed) :
    resume ts (.stop v) ≠ (d, rest) := by
  rintro ⟨⟩
  exact hv hd

theorem not_aborted {f : Fault} (hd : d.Closed) : resume ts (.stop (abort f a fs)) ≠ (d, rest) :=
  not_stopped (not_closed_abort f a fs) hd

theorem putScalar_of_resume {α : Type} {v : Scalar α} {w : Doc} (hw : ¬ w.Closed)
    (h : resume ts (putScalar v w fs) = (d, rest)) (hd : d.Closed) :
    v.skipped = none ∧ resume ts (put w fs) = (d, rest) := by
  unfold putScalar at h
  split at h
  · exact absurd h (not_stopped (not_closed_collapse hw fs) hd)
  · next hv => exact ⟨Option.not_isSome_iff_eq_none.mp hv, h⟩

end Building

mutual
/-- Where a value is awaited, the tokens of one follow. -/
theorem value_of_build {a : Awaits} {fs : List Frame} {ts rest : List Token} {d : Doc}
    (ha : a = .value ∨ a = .valueOrClose ∧ ts.head? ≠ some .closeList)
    (h : build a fs ts = (d, rest)) (hd : d.Closed) :
    ∃ v ts', v.Faultless ∧ ts = v.tokens ++ ts' ∧ resume ts' (put v fs) = (d, rest) := by
  obtain ⟨t, ts, rfl, h₀⟩ := exists_cons_of_build h hd
  have hstep : step a fs t = (start fs t).getD (.stop (abort (faultAt t) a fs)) := by
    obtain rfl | ⟨rfl, hhead⟩ := ha
    · rfl
    · cases t with
      | closeList => exact absurd rfl hhead
      | _ => rfl
  rw [hstep] at h₀
  cases t with
  | null => exact ⟨.null, ts, faultless_null, rfl, h₀⟩
  | bool b => exact ⟨.bool b, ts, faultless_bool b, rfl, h₀⟩
  | number v =>
    obtain ⟨hv, h₁⟩ := putScalar_of_resume id h₀ hd
    exact ⟨.number v, ts, faultless_number.mpr hv, rfl, h₁⟩
  | text v =>
    obtain ⟨hv, h₁⟩ := putScalar_of_resume id h₀ hd
    exact ⟨.text v, ts, faultless_text.mpr hv, rfl, h₁⟩
  | stray f => exact absurd h₀ (not_stopped (not_closed_collapse id fs) hd)
  | openList =>
    by_cases hclose : ts.head? = some .closeList
    · obtain ⟨ts, rfl⟩ := List.head?_eq_some_iff.mp hclose
      have h₁ := (build_cons .valueOrClose (.list [] :: fs) .closeList ts).symm.trans h₀
      exact ⟨.list [] .closed, ts, faultless_list.mpr ⟨nofun, rfl⟩, rfl, h₁⟩
    · obtain ⟨v, ts', hv, rfl, h₁⟩ := value_of_build (.inr ⟨rfl, hclose⟩) h₀ hd
      obtain ⟨vs, ts'', hvs, rfl, h₂⟩ := items_of_build h₁ hd
      refine ⟨.list (v :: vs) .closed, ts'', ?_, ?_, h₂⟩
      · exact faultless_list.mpr ⟨List.forall_mem_cons.mpr ⟨hv, hvs⟩, rfl⟩
      · rw [tokens, List.cons_append, List.append_assoc, List.append_assoc, List.singleton_append]
  | openObject =>
    by_cases hclose : ts.head? = some .closeObject
    · obtain ⟨ts, rfl⟩ := List.head?_eq_some_iff.mp hclose
      have h₁ := (build_cons .keyOrClose (.object [] none :: fs) .closeObject ts).symm.trans h₀
      exact ⟨.object [] .closed, ts, faultless_object.mpr ⟨nofun, rfl⟩, rfl, h₁⟩
    · obtain ⟨k, v, ts', hv, rfl, h₁⟩ := member_of_build (.inr ⟨rfl, hclose⟩) h₀ hd
      obtain ⟨ms, ts'', hms, rfl, h₂⟩ := members_of_build h₁ hd
      refine ⟨.object ((k, v) :: ms) .closed, ts'', ?_, ?_, h₂⟩
      · exact faultless_object.mpr ⟨List.forall_mem_cons.mpr ⟨hv, hms⟩, rfl⟩
      · rw [tokens, List.cons_append, List.cons_append, List.cons_append, List.append_assoc,
          List.append_assoc, List.singleton_append]
  | _ => exact absurd h₀ (not_aborted hd)
termination_by ts.length

/-- After an item, the other ones of the list follow, and its end. -/
theorem items_of_build {done : List Doc} {fs : List Frame} {ts rest : List Token} {d : Doc}
    (h : build .commaOrClose (.list done :: fs) ts = (d, rest)) (hd : d.Closed) :
    ∃ vs ts', (∀ v ∈ vs, v.Faultless) ∧ ts = itemTokens vs ++ .closeList :: ts' ∧
      resume ts' (put (.list (done.reverse ++ vs) .closed) fs) = (d, rest) := by
  obtain ⟨t, ts, rfl, h₀⟩ := exists_cons_of_build h hd
  cases t with
  | closeList => exact ⟨[], ts, nofun, rfl, by rwa [List.append_nil]⟩
  | comma =>
    obtain ⟨v, ts', hv, rfl, h₁⟩ := value_of_build (.inl rfl) h₀ hd
    obtain ⟨vs, ts'', hvs, rfl, h₂⟩ := items_of_build h₁ hd
    refine ⟨v :: vs, ts'', List.forall_mem_cons.mpr ⟨hv, hvs⟩, ?_, ?_⟩
    · rw [itemTokens, List.cons_append, List.append_assoc]
    · rwa [List.reverse_cons, List.append_assoc, List.singleton_append] at h₂
  | _ => exact absurd h₀ (not_aborted hd)
termination_by ts.length

/-- Where a member is awaited, its name follows, and its value. -/
theorem member_of_build {a : Awaits} {done : List Member} {fs : List Frame} {ts rest : List Token}
    {d : Doc} (ha : a = .key ∨ a = .keyOrClose ∧ ts.head? ≠ some .closeObject)
    (h : build a (.object done none :: fs) ts = (d, rest)) (hd : d.Closed) :
    ∃ k v ts', v.Faultless ∧ ts = .text ⟨k, none⟩ :: .colon :: (v.tokens ++ ts') ∧
      build .commaOrClose (.object ((k, v) :: done) none :: fs) ts' = (d, rest) := by
  obtain ⟨t, ts, rfl, h₀⟩ := exists_cons_of_build h hd
  have hstep : step a (.object done none :: fs) t = (name (.object done none :: fs) t).getD
      (.stop (abort (faultAt t) a (.object done none :: fs))) := by
    obtain rfl | ⟨rfl, hhead⟩ := ha
    · rfl
    · cases t with
      | closeObject => exact absurd rfl hhead
      | _ => rfl
  rw [hstep] at h₀
  cases t with
  | text v =>
    obtain ⟨k, skipped⟩ := v
    cases skipped with
    | some f => exact absurd h₀ (not_stopped (not_closed_collapse id _) hd)
    | none =>
      obtain ⟨t, ts, rfl, h₁⟩ := exists_cons_of_build h₀ hd
      cases t with
      | colon =>
        obtain ⟨v, ts', hv, rfl, h₂⟩ := value_of_build (.inl rfl) h₁ hd
        exact ⟨k, v, ts', hv, rfl, h₂⟩
      | _ => exact absurd h₁ (not_aborted hd)
  | _ => exact absurd h₀ (not_aborted hd)
termination_by ts.length

theorem members_of_build {done : List Member} {fs : List Frame} {ts rest : List Token} {d : Doc}
    (h : build .commaOrClose (.object done none :: fs) ts = (d, rest)) (hd : d.Closed) :
    ∃ ms ts', (∀ m ∈ ms, m.2.Faultless) ∧ ts = memberTokens ms ++ .closeObject :: ts' ∧
      resume ts' (put (.object (done.reverse ++ ms) .closed) fs) = (d, rest) := by
  obtain ⟨t, ts, rfl, h₀⟩ := exists_cons_of_build h hd
  cases t with
  | closeObject => exact ⟨[], ts, nofun, rfl, by rwa [List.append_nil]⟩
  | comma =>
    obtain ⟨k, v, ts', hv, rfl, h₁⟩ := member_of_build (.inl rfl) h₀ hd
    obtain ⟨ms, ts'', hms, rfl, h₂⟩ := members_of_build h₁ hd
    refine ⟨(k, v) :: ms, ts'', List.forall_mem_cons.mpr ⟨hv, hms⟩, ?_, ?_⟩
    · rw [memberTokens, List.cons_append, List.cons_append, List.cons_append, List.append_assoc]
    · rwa [List.reverse_cons, List.append_assoc, List.singleton_append] at h₂
  | _ => exact absurd h₀ (not_aborted hd)
termination_by ts.length
end

end Doc

/-- The text of a document: its tokens in any spelling, with blanks between them. -/
def Text.Holds (s : String) (d : Doc) : Prop :=
  d.Faultless ∧ Json.tokens s.toList = d.tokens ++ [.finish]

theorem Text.Holds.read {s : String} {d : Doc} (h : Text.Holds s d) : Text.read s = ⟨d, false⟩ := by
  unfold Text.read
  rw [h.2, Doc.build_tokens d h.1 (.inl rfl) [] [.finish]]
  rfl

theorem Text.holds_of_read {s : String} {d : Doc} (h : Text.read s = ⟨d, false⟩) (hd : d.Closed) :
    Text.Holds s d := by
  unfold Text.read at h
  cases hbuild : Doc.build .value [] (tokens s.toList) with
  | mk d' rest =>
    rw [hbuild] at h
    injection h with hdoc hrest
    subst hdoc
    obtain ⟨v, ts', hv, hts, hres⟩ := Doc.value_of_build (.inl rfl) hbuild hd
    cases hres
    split at hrest
    · exact ⟨hv, hts⟩
    · cases hrest

end TrafficWatch.Json
