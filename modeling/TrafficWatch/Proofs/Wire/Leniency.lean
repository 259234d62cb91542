import Mathlib.Logic.Relation
import TrafficWatch.Proofs.Json.Rewriting
import TrafficWatch.Proofs.Json.Written
import TrafficWatch.Wire.Codec

/-!
What may be different in the text of a snapshot that says the same. Its records name their members
in any order, members with other names are passed over, and what a server has none of may be left
out or be a null. Counters are numbers, though.
-/

namespace TrafficWatch.Wire

open Json

theorem Metadata.unordered : Metadata.schema.Unordered where
  proper := by decide
  commutes := by
    simp only [schema, List.pairwise_cons, List.forall_mem_cons, List.not_mem_nil, false_imp_iff,
      implies_true, List.Pairwise.nil, and_true]
    and_intros <;> exact Field.commutes_make fun _ _ _ => rfl
  defaulted := by decide

theorem ConnectionRecord.unordered : ConnectionRecord.schema.Unordered where
  proper := by decide
  commutes := by
    simp only [schema, List.pairwise_cons, List.forall_mem_cons, List.not_mem_nil, false_imp_iff,
      implies_true, List.Pairwise.nil, and_true]
    and_intros <;> exact Field.commutes_make fun _ _ _ => rfl
  defaulted := by decide

theorem Snapshot.unordered : Snapshot.schema.Unordered where
  proper := by decide
  commutes := by
    simp only [schema, List.pairwise_cons, List.forall_mem_cons, List.not_mem_nil, false_imp_iff,
      implies_true, List.Pairwise.nil, and_true]
    and_intros <;> exact Field.commutes_make fun _ _ _ => rfl
  defaulted := by decide

def Metadata.Rewrites : Doc → Doc → Prop :=
  Doc.Rewrites Metadata.schema ["Network", "Type", "Client", "Source", "Target"] fun _ _ _ => False

def ConnectionRecord.Rewrites : Doc → Doc → Prop :=
  Doc.Rewrites ConnectionRecord.schema ["ID", "Metadata", "Start"] fun name d d' =>
    name = "Metadata" ∧ Metadata.Rewrites d d'

/-- One item of a list is rewritten. -/
inductive ItemRewrites (R : Doc → Doc → Prop) : Doc → Doc → Prop
  | item {l l' : List Doc} {d d' : Doc} (h : R d d') :
      ItemRewrites R (.list (l ++ d :: l') .closed) (.list (l ++ d' :: l') .closed)

def Snapshot.Rewrites : Doc → Doc → Prop :=
  Doc.Rewrites Snapshot.schema ["Connections"] fun name d d' =>
    name = "Connections" ∧ ItemRewrites ConnectionRecord.Rewrites d d'

theorem Metadata.Rewrites.read {d d' : Doc} {m : Metadata} (h : Metadata.Rewrites d d')
    (hread : Metadata.read d = .ok m) : Metadata.read d' = .ok m := by
  refine Doc.Rewrites.asRecord unordered ?_ (fun _ _ _ _ h => h.elim) h hread
  simp only [schema, List.forall_mem_cons, List.not_mem_nil, false_imp_iff, implies_true, and_true]
  exact ⟨fun _ => rfl, fun _ => rfl, fun _ => rfl, fun _ => rfl, fun _ => rfl⟩

theorem ConnectionRecord.Rewrites.read {d d' : Doc} {r : ConnectionRecord}
    (h : ConnectionRecord.Rewrites d d') (hread : ConnectionRecord.read d = .ok r) :
    ConnectionRecord.read d' = .ok r := by
  refine Doc.Rewrites.asRecord unordered ?nulls ?inner h hread
  case nulls =>
    simp only [schema, List.forall_mem_cons, List.not_mem_nil, false_imp_iff, implies_true, and_true]
    exact ⟨fun _ => rfl, fun _ => rfl, fun h => absurd h (by decide), fun h => absurd h (by decide),
      fun _ => rfl⟩
  case inner =>
    simp only [schema, List.forall_mem_cons, List.not_mem_nil, false_imp_iff, implies_true, and_true]
    refine ⟨?id, ?metadata, ?upload, ?download, ?start⟩
    case metadata =>
      rintro d d' ⟨-, h⟩ r r'
      refine Field.make_read_follows fun m => ?_
      rw [Doc.orDefault_of_ne_null h.ne_null.1, Doc.orDefault_of_ne_null h.ne_null.2]
      exact h.read
    all_goals exact fun _ _ h => absurd h.1 (by decide)

theorem asList_of_itemRewrites {α : Type} {read : Doc → Except DecodeError α} {R : Doc → Doc → Prop}
    (hR : ∀ d d' a, R d d' → read d = .ok a → read d' = .ok a) {d d' : Doc} {as : List α}
    (h : ItemRewrites R d d') (hread : Doc.asList read d = .ok as) :
    Doc.asList read d' = .ok as := by
  cases h with
  | @item l l' d d' h =>
    obtain ⟨_, ⟨⟩, hitems⟩ := Doc.asList_eq_ok.mp hread
    refine Doc.asList_eq_ok.mpr ⟨_, rfl, ?_⟩
    simp only [List.mapM_append, List.mapM_cons, bind_eq_ok] at hitems ⊢
    obtain ⟨front, hfront, _, ⟨a, ha, back, hback, ⟨⟩⟩, ⟨⟩⟩ := hitems
    exact ⟨front, hfront, _, ⟨a, hR d d' a h ha, back, hback, rfl⟩, rfl⟩

theorem Snapshot.Rewrites.read {d d' : Doc} {s : Snapshot} (h : Snapshot.Rewrites d d')
    (hread : Snapshot.read d = .ok s) : Snapshot.read d' = .ok s := by
  refine Doc.Rewrites.asRecord unordered ?nulls ?inner h hread
  case nulls =>
    simp only [schema, List.forall_mem_cons, List.not_mem_nil, false_imp_iff, implies_true, and_true]
    exact ⟨fun h => absurd h (by decide), fun h => absurd h (by decide), fun _ => rfl⟩
  case inner =>
    simp only [schema, List.forall_mem_cons, List.not_mem_nil, false_imp_iff, implies_true, and_true]
    refine ⟨?upload, ?download, ?connections⟩
    case connections =>
      rintro d d' ⟨-, h⟩ r r'
      refine Field.make_read_follows fun rs => ?_
      have hne : d ≠ .null ∧ d' ≠ .null := by
        cases h
        exact ⟨nofun, nofun⟩
      rw [Doc.orDefault_of_ne_null hne.1, Doc.orDefault_of_ne_null hne.2]
      exact asList_of_itemRewrites (fun _ _ _ h => h.read) h
    all_goals exact fun _ _ h => absurd h.1 (by decide)

/-- A null stands where a counter should. -/
inductive Snapshot.NullCounter : Doc → Prop
  | total {name : String} {d : Doc} (hname : name = "UploadTotal" ∨ name = "DownloadTotal")
      (h : d.Has Snapshot.schema name .null) : NullCounter d
  | connection {name : String} {d c : Doc} {ds : List Doc} {e : Ending}
      (hd : d.Has Snapshot.schema "Connections" (.list ds e)) (hc : c ∈ ds)
      (hname : name = "Upload" ∨ name = "Download")
      (h : c.Has ConnectionRecord.schema name .null) : NullCounter d

/-- No field of these names is read from a null. -/
theorem null_not_read {σ : Type} {s : Schema Doc DecodeError σ} (names : List String) {name : String}
    {d : Doc} {r : σ} (hnames : ∀ f ∈ s.fields, f.name ∈ names → ∀ r r', f.read .null r ≠ .ok r')
    (hname : name ∈ names) (h : d.Has s name .null) : Doc.asRecord s d ≠ .ok r := by
  intro hread
  obtain ⟨f, hf, rfl, r₀, r₁, hr⟩ := h.read hread
  exact hnames f hf hname r₀ r₁ hr

theorem ConnectionRecord.null_not_read {name : String} (hname : name = "Upload" ∨ name = "Download")
    {d : Doc} (h : d.Has ConnectionRecord.schema name .null) (r : ConnectionRecord) :
    ConnectionRecord.read d ≠ .ok r := by
  refine Wire.null_not_read ["Upload", "Download"] ?_ (by simpa using hname) h
  simp only [schema, List.forall_mem_cons, List.not_mem_nil, false_imp_iff, implies_true, and_true]
  exact ⟨fun h => absurd h (by decide), fun h => absurd h (by decide), fun _ _ _ => nofun,
    fun _ _ _ => nofun, fun h => absurd h (by decide)⟩

theorem Snapshot.null_total_not_read {name : String}
    (hname : name = "UploadTotal" ∨ name = "DownloadTotal") {d : Doc}
    (h : d.Has Snapshot.schema name .null) (s : Snapshot) : Snapshot.read d ≠ .ok s := by
  refine Wire.null_not_read ["UploadTotal", "DownloadTotal"] ?_ (by simpa using hname) h
  simp only [schema, List.forall_mem_cons, List.not_mem_nil, false_imp_iff, implies_true, and_true]
  exact ⟨fun _ _ _ => nofun, fun _ _ _ => nofun, fun h => absurd h (by decide)⟩

theorem Snapshot.exists_read_of_connections {d : Doc} {ds : List Doc} {e : Ending} {s : Snapshot}
    (hd : d.Has Snapshot.schema "Connections" (.list ds e)) (hread : Snapshot.read d = .ok s) :
    ∀ c ∈ ds, ∃ r, ConnectionRecord.read c = .ok r := by
  obtain ⟨f, hf, hname, r₀, r₁, hr⟩ := hd.read hread
  simp only [schema, List.mem_cons, List.not_mem_nil, or_false] at hf
  obtain rfl | rfl | rfl := hf
  · exact absurd hname (by decide)
  · exact absurd hname (by decide)
  · obtain ⟨rs, hrs, -⟩ := Field.make_read_eq_ok.mp hr
    have hne : Doc.list ds e ≠ .null := nofun
    rw [Doc.orDefault_of_ne_null hne] at hrs
    obtain ⟨_, ⟨⟩, hitems⟩ := Doc.asList_eq_ok.mp hrs
    intro c hc
    obtain ⟨r, -, hr⟩ := mapM_left hitems hc
    exact ⟨r, hr⟩

/-- A snapshot with a null counter is not read. -/
theorem Snapshot.NullCounter.not_read {d : Doc} (h : NullCounter d) (s : Snapshot) :
    Snapshot.read d ≠ .ok s := by
  cases h with
  | total hname h => exact null_total_not_read hname h s
  | connection hd hc hname h =>
    intro hread
    obtain ⟨r, hr⟩ := exists_read_of_connections hd hread _ hc
    exact ConnectionRecord.null_not_read hname h r hr

/-- A text that is read as a snapshot is the text of a document, and every text of a rewriting of
that document is read as the same snapshot. No text with a null counter is read at all. -/
theorem snapshot_leniency :
    (∀ t s, decode Snapshot.read t = .ok s → ∃ d, Text.Holds t d ∧
      ∀ d' t', Relation.ReflTransGen Snapshot.Rewrites d d' → Text.Holds t' d' →
        decode Snapshot.read t' = .ok s) ∧
    ∀ t, Snapshot.NullCounter (Text.read t).doc → ∀ s, decode Snapshot.read t ≠ .ok s := by
  refine ⟨fun t s h => ?_, fun t hnull s h => ?_⟩
  · obtain ⟨hd, hread⟩ := holds_of_decode h
    refine ⟨_, hd, fun d' t' hrewrites ht' => ?_⟩
    have hread' : Snapshot.read d' = .ok s := by
      clear ht'
      induction hrewrites with
      | refl => exact hread
      | tail _ hstep ih => exact hstep.read ih
    exact decode_of_holds ht' hread'
  · exact hnull.not_read s (read_of_decode h).1

/-- A snapshot, and one that has its members in another order, on both levels, and a null and an
unknown member besides; and one that counts nothing. -/
def plainSnapshot : Value := .object [
  ("Connections", .list [.object [("ID", .text "a"), ("Upload", .nat 1)]]), ("UploadTotal", .nat 5)]

def chattySnapshot : Value := .object [
  ("UploadTotal", .nat 5), ("Peers", .list [.bool true, .null]),
  ("Connections", .list [.object [("Upload", .nat 1), ("Start", .null), ("ID", .text "a")]])]

def uncountedSnapshot : Value := .object [("Connections", .list [.object [("Upload", .null)]])]

theorem plain_rewrites_chatty :
    Relation.ReflTransGen Snapshot.Rewrites plainSnapshot.doc chattySnapshot.doc := by
  have swapped : Snapshot.Rewrites plainSnapshot.doc (Value.object [
      ("Connections", .list [.object [("Upload", .nat 1), ("ID", .text "a")]]),
      ("UploadTotal", .nat 5)]).doc :=
    .member (l := []) rfl ⟨rfl, .item (l := []) (.permute (.swap ..))⟩
  have moved : Snapshot.Rewrites (Value.object [
      ("Connections", .list [.object [("Upload", .nat 1), ("ID", .text "a")]]),
      ("UploadTotal", .nat 5)]).doc (Value.object [
      ("UploadTotal", .nat 5),
      ("Connections", .list [.object [("Upload", .nat 1), ("ID", .text "a")]])]).doc :=
    .permute (.swap ..)
  have joined : Snapshot.Rewrites (Value.object [
      ("UploadTotal", .nat 5),
      ("Connections", .list [.object [("Upload", .nat 1), ("ID", .text "a")]])]).doc (Value.object [
      ("UploadTotal", .nat 5), ("Peers", .list [.bool true, .null]),
      ("Connections", .list [.object [("Upload", .nat 1), ("ID", .text "a")]])]).doc := by
    refine .add (l := [_]) (.unknown rfl rfl) ?_
    rintro f ⟨_, ⟨⟩, hk⟩
    exact nomatch hk
  have nulled : Snapshot.Rewrites (Value.object [
      ("UploadTotal", .nat 5), ("Peers", .list [.bool true, .null]),
      ("Connections", .list [.object [("Upload", .nat 1), ("ID", .text "a")]])]).doc
      chattySnapshot.doc := by
    refine .member (l := [_, _]) rfl ⟨rfl, .item (l := []) ?_⟩
    refine .add (l := [_]) (.null rfl (by decide)) ?_
    rintro f ⟨_, ⟨⟩, hk⟩ m hm ⟨key, hkey, hk'⟩
    have hkeys : ConnectionRecord.schema.find? key = ConnectionRecord.schema.find? "Start" :=
      hk'.trans hk.symm
    have hname := congrArg (Option.map Field.name) hkeys
    obtain _ | ⟨_, _ | ⟨_, ⟨⟩⟩⟩ := hm <;> cases hkey <;> exact absurd hname (by decide)
  exact .tail (.tail (.tail (.single swapped) moved) joined) nulled

theorem chatty_snapshot_read :
    decode Snapshot.read plainSnapshot.compactText =
        .ok { totals := ⟨5, 0⟩, connections := [{ id := some "a", counters := ⟨1, 0⟩ }] } ∧
      decode Snapshot.read chattySnapshot.prettyText =
        .ok { totals := ⟨5, 0⟩, connections := [{ id := some "a", counters := ⟨1, 0⟩ }] } ∧
      ∀ s, decode Snapshot.read uncountedSnapshot.compactText ≠ .ok s := by
  have hplain : decode Snapshot.read plainSnapshot.compactText =
      .ok { totals := ⟨5, 0⟩, connections := [{ id := some "a", counters := ⟨1, 0⟩ }] } := by
    decide +kernel
  obtain ⟨d, hd, hrewritten⟩ := snapshot_leniency.1 _ _ hplain
  have hdoc : d = plainSnapshot.doc := by
    have hread := (Value.holds_write Value.blank_compact (v := plainSnapshot) rfl).read
    exact congrArg Text.doc (hd.read.symm.trans hread)
  refine ⟨hplain, ?_, snapshot_leniency.2 _ ?_⟩
  · exact hrewritten _ _ (hdoc ▸ plain_rewrites_chatty)
      (Value.holds_write Value.blank_pretty (v := chattySnapshot) rfl)
  · rw [Value.compactText, (Value.holds_write Value.blank_compact (v := uncountedSnapshot) rfl).read]
    exact .connection (.member rfl rfl (List.mem_singleton_self _)) (List.mem_singleton_self _)
      (.inl rfl) (.member rfl rfl (List.mem_singleton_self _))

end TrafficWatch.Wire
