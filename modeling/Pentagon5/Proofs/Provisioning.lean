import Pentagon5.Auth.Provisioning

/-!
# Provisioning under concurrent calls

In every reachable configuration the uncommitted rows conflict neither with committed rows nor
with each other, so each commit keeps the identities in bijection with the users that they
provisioned.
-/

namespace Pentagon5.Auth.Provisioning

open Python Relational Relational.Table Store PostgresAuthRepository

variable {db db' init : Database} {others l r : List Txn} {t t' a : Txn} {p : Phase}

/-- What the rows of one call are, and that they conflict with no committed row. -/
def Sound (db : Database) (t : Txn) : Prop :=
  match t.phase with
  | .insertedUser u => u.Describes t.identity ∧ ∀ a ∈ db.users, ¬Clash a u
  | .insertedIdentity u i => u.Describes t.identity ∧ i.Holds t.identity ∧ i.userId = u.id ∧
      (∀ a ∈ db.users, ¬Clash a u) ∧ ∀ a ∈ db.identities, ¬Clash a i
  | .found userId => Linked db t.identity userId
  | .updatedUser userId u => Linked db t.identity userId ∧ ∀ new ∈ u, new.id = userId ∧
      new.Describes t.identity ∧ ∀ a ∈ db.users, a.id = userId ∨ ¬Clash a new
  | .returned userId => Linked db t.identity userId
  | _ => True

/-- The uncommitted rows of two calls do not conflict. -/
structure Apart (t t' : Txn) : Prop where
  users : ∀ a ∈ t.phase.users, ∀ b ∈ t'.phase.users, ¬Clash a b
  identities : ∀ a ∈ t.phase.identities, ∀ b ∈ t'.phase.identities, ¬Clash a b

lemma Apart.symm (h : Apart t t') : Apart t' t where
  users a ha b hb hclash := h.users b hb a ha (Keyed.symm _ _ hclash)
  identities a ha b hb hclash := h.identities b hb a ha (Keyed.symm _ _ hclash)

/-- The identities belong to different users. -/
structure Bijective (db : Database) : Prop where
  owned : ∀ i ∈ db.identities, ∃ u ∈ db.users, u.id = i.userId
  injective : ∀ i ∈ db.identities, ∀ i' ∈ db.identities, i.userId = i'.userId → i = i'

structure Consistent (init : Database) (c : Config) : Prop extends Bijective c.db where
  provisioned : ∀ u ∈ c.db.users, (∃ u₀ ∈ init.users, u₀.id = u.id) ∨ ∃ i ∈ c.db.identities, i.userId = u.id
  users : ∀ u ∈ c.db.users, u ∈ init.users ∨
    ∃ t ∈ c.calls, t.phase = .returned u.id ∧ u.Describes t.identity
  identities : ∀ i ∈ c.db.identities, i ∈ init.identities ∨
    ∃ t ∈ c.calls, t.phase = .returned i.userId ∧ i.Holds t.identity
  sound : ∀ t ∈ c.calls, Sound c.db t
  apart : c.calls.Pairwise Apart

lemma Moves.running (h : Moves db others t db' p) : t.phase.ended = false := by
  cases h with
  | raised e h => exact h
  | _ => simp_all [Phase.ended]

lemma Moves.identities_mono (h : Moves db others t db' p) {i : IdentityRow} (hi : i ∈ db.identities) :
    i ∈ db'.identities := by
  cases h with
  | committed u i' users identities h hu hins => exact hins.old hi
  | _ => exact hi

lemma Moves.linked (h : Moves db others t db' p) {identity : Identity} {userId : Uuid}
    (hl : Linked db identity userId) : Linked db' identity userId := by
  obtain ⟨i, hi, hl⟩ := hl
  exact ⟨i, h.identities_mono hi, hl⟩

/-- The committed user rows of a step are old ones or uncommitted ones of its call. -/
lemma Moves.users_cases (h : Moves db others t db' p) {u : UserRow} (hu : u ∈ db'.users) :
    u ∈ db.users ∨ u ∈ t.phase.users := by
  cases h with
  | committed u' i users identities h hins _ =>
    rcases (hins.mem u).mp hu with hold | rfl
    · exact .inl hold
    · exact .inr (by rw [h]; exact List.mem_singleton_self u)
  | committedUpdate userId new users h hm =>
    obtain ⟨u', hu', rfl⟩ := (hm u).mp hu
    dsimp only
    split
    · exact .inr (by rw [h]; exact List.mem_singleton_self new)
    · exact .inl hu'
  | _ => exact .inl hu

lemma Moves.identities_cases (h : Moves db others t db' p) {i : IdentityRow} (hi : i ∈ db'.identities) :
    i ∈ db.identities ∨ i ∈ t.phase.identities := by
  cases h with
  | committed u i' users identities h _ hins =>
    rcases (hins.mem i).mp hi with hold | rfl
    · exact .inl hold
    · exact .inr (by rw [h]; exact List.mem_singleton_self i)
  | _ => exact .inl hi

/-- The step of one call keeps the rows of the others sound. -/
lemma Moves.sound_other (h : Moves db others t db' p) (ha : Sound db a) (hapart : Apart t a) :
    Sound db' a := by
  have husers : ∀ b ∈ a.phase.users, ∀ u ∈ db'.users, u ∈ db.users ∨ ¬Clash u b := by
    intro b hb u hu
    exact (h.users_cases hu).imp_right fun hmem => hapart.users u hmem b hb
  have hids : ∀ b ∈ a.phase.identities, ∀ i ∈ db'.identities, i ∈ db.identities ∨ ¬Clash i b := by
    intro b hb i hi
    exact (h.identities_cases hi).imp_right fun hmem => hapart.identities i hmem b hb
  unfold Sound at ha ⊢
  cases hp : a.phase with
  | insertedUser u =>
    rw [hp] at ha husers
    exact ⟨ha.1, fun b hb => (husers u (List.mem_singleton_self u) b hb).elim (ha.2 b) id⟩
  | insertedIdentity u i =>
    rw [hp] at ha husers hids
    obtain ⟨hdesc, hholds, howner, hu, hi⟩ := ha
    exact ⟨hdesc, hholds, howner,
      fun b hb => (husers u (List.mem_singleton_self u) b hb).elim (hu b) id,
      fun b hb => (hids i (List.mem_singleton_self i) b hb).elim (hi b) id⟩
  | found userId =>
    rw [hp] at ha
    exact h.linked ha
  | updatedUser userId u =>
    rw [hp] at ha husers
    refine ⟨h.linked ha.1, fun new hnew => ?_⟩
    obtain ⟨hid, hdesc, hfree⟩ := ha.2 new hnew
    have hmem : new ∈ (Phase.updatedUser userId u).users := by
      rw [Option.mem_def.mp hnew]
      exact List.mem_singleton_self new
    exact ⟨hid, hdesc, fun b hb => (husers new hmem b hb).elim (hfree b) .inr⟩
  | returned userId =>
    rw [hp] at ha
    exact h.linked ha
  | _ => trivial

lemma Moves.sound_self (h : Moves db others t db' p) (ht : Sound db t) : Sound db' { t with phase := p } := by
  unfold Sound at ht
  cases h with
  | raised e _ => trivial
  | missed _ => trivial
  | found userId _ hlinked => exact hlinked
  | insertedUser u _ hu hfresh => exact ⟨hu, fun a ha => hfresh a (List.mem_append_left _ ha)⟩
  | insertedIdentity u i h hi howner hfresh =>
    rw [h] at ht
    exact ⟨ht.1, hi, howner, ht.2, fun a ha => hfresh a (List.mem_append_left _ ha)⟩
  | committed u i users identities h hu hi =>
    rw [h] at ht
    exact ⟨i, hi.new, ht.2.1, ht.2.2.1⟩
  | updatedUser userId new h hlock hid hnew hfresh =>
    rw [h] at ht
    refine ⟨ht, ?_⟩
    rintro _ ⟨⟩
    exact ⟨hid, hnew, fun a ha => hfresh a (List.mem_append_left _ ha)⟩
  | keptUser userId h =>
    rw [h] at ht
    exact ⟨ht, fun _ h => nomatch h⟩
  | committedNone userId h =>
    rw [h] at ht
    exact ht.1
  | committedUpdate userId new users h hm =>
    rw [h] at ht
    exact ht.1

lemma Moves.apart (h : Moves db others t db' p) (ha : a ∈ others) (hapart : Apart t a) :
    Apart { t with phase := p } a := by
  have husers : ∀ b ∈ a.phase.users, b ∈ userRows db others :=
    fun b hb => List.mem_append_right _ (List.mem_flatMap.mpr ⟨a, ha, hb⟩)
  have hids : ∀ b ∈ a.phase.identities, b ∈ identityRows db others :=
    fun b hb => List.mem_append_right _ (List.mem_flatMap.mpr ⟨a, ha, hb⟩)
  have hnone : ∀ p : Phase, p.users = [] → p.identities = [] → Apart { t with phase := p } a :=
    fun p hu hi => ⟨by simp [hu], by simp [hi]⟩
  cases h with
  | insertedUser u _ hu hfresh =>
    refine ⟨fun b hb a' ha' hclash => ?_, fun _ hb => nomatch hb⟩
    obtain rfl := List.mem_singleton.mp hb
    exact hfresh a' (husers a' ha') (Keyed.symm _ _ hclash)
  | insertedIdentity u i h hi howner hfresh =>
    refine ⟨fun b hb => hapart.users b (by rw [h]; exact hb), fun b hb a' ha' hclash => ?_⟩
    obtain rfl := List.mem_singleton.mp hb
    exact hfresh a' (hids a' ha') (Keyed.symm _ _ hclash)
  | updatedUser userId new h hlock hid hnew hfresh =>
    refine ⟨fun b hb a' ha' hclash => ?_, fun _ hb => nomatch hb⟩
    obtain rfl := List.mem_singleton.mp hb
    exact (hfresh a' (husers a' ha')).elim (hlock a ha a' ha') fun hno => hno (Keyed.symm _ _ hclash)
  | _ => exact hnone _ rfl rfl

lemma Moves.bijective (h : Moves db others t db' p) (ht : Sound db t) (hb : Bijective db) :
    Bijective db' := by
  unfold Sound at ht
  cases h with
  | committed u i users identities h hu hi =>
    rw [h] at ht
    obtain ⟨-, -, howner, hfresh, -⟩ := ht
    -- no committed identity belongs to the new user
    have hnew : ∀ i' ∈ db.identities, i'.userId ≠ i.userId := by
      intro i' hi' heq
      obtain ⟨u', hu', hid⟩ := hb.owned i' hi'
      exact hfresh u' hu' (.inl (hid.trans (heq.trans howner)))
    refine ⟨fun i' hi' => ?_, fun i₁ h₁ i₂ h₂ heq => ?_⟩
    · rcases (hi.mem i').mp hi' with hold | rfl
      · obtain ⟨u', hu', hid⟩ := hb.owned i' hold
        exact ⟨u', hu.old hu', hid⟩
      · exact ⟨u, hu.new, howner.symm⟩
    · rcases (hi.mem i₁).mp h₁ with hold₁ | rfl
      · rcases (hi.mem i₂).mp h₂ with hold₂ | rfl
        · exact hb.injective i₁ hold₁ i₂ hold₂ heq
        · exact absurd heq (hnew i₁ hold₁)
      · rcases (hi.mem i₂).mp h₂ with hold₂ | rfl
        · exact absurd heq.symm (hnew i₂ hold₂)
        · rfl
  | committedUpdate userId new users h hm =>
    rw [h] at ht
    have hid : ∀ u : UserRow, (if u.id = userId then new else u).id = u.id := by
      intro u
      split
      · next heq => exact (ht.2 new rfl).1.trans heq.symm
      · rfl
    refine ⟨fun i hi => ?_, hb.injective⟩
    obtain ⟨u, hu, huid⟩ := hb.owned i hi
    exact ⟨_, hm.image hu, (hid u).trans huid⟩
  | _ => exact hb

lemma Moves.provisioned (h : Moves db others t db' p) (ht : Sound db t)
    (hp : ∀ u ∈ db.users, (∃ u₀ ∈ init.users, u₀.id = u.id) ∨ ∃ i ∈ db.identities, i.userId = u.id) :
    ∀ u ∈ db'.users, (∃ u₀ ∈ init.users, u₀.id = u.id) ∨ ∃ i ∈ db'.identities, i.userId = u.id := by
  unfold Sound at ht
  cases h with
  | committed u i users identities h hu hi =>
    rw [h] at ht
    intro u' hu'
    rcases (hu.mem u').mp hu' with hold | rfl
    · exact (hp u' hold).imp_right fun ⟨i', hi', howner⟩ => ⟨i', hi.old hi', howner⟩
    · exact .inr ⟨i, hi.new, ht.2.2.1⟩
  | committedUpdate userId new users h hm =>
    rw [h] at ht
    intro u' hu'
    obtain ⟨u, hu, rfl⟩ := (hm u').mp hu'
    dsimp only
    split
    · next heq =>
      rw [(ht.2 new rfl).1, ← heq]
      exact hp u hu
    · exact hp u hu
  | _ => exact hp

/-- A row that a step commits was written by its call, which returns in that step. -/
lemma Moves.written_user (h : Moves db others t db' p) (ht : Sound db t) {u : UserRow} (hu : u ∈ db'.users) :
    u ∈ db.users ∨ p = .returned u.id ∧ u.Describes t.identity := by
  unfold Sound at ht
  cases h with
  | committed u' i users identities h hins _ =>
    rw [h] at ht
    rcases (hins.mem u).mp hu with hold | rfl
    · exact .inl hold
    · exact .inr ⟨rfl, ht.1⟩
  | committedUpdate userId new users h hm =>
    rw [h] at ht
    obtain ⟨hid, hdesc, -⟩ := ht.2 new rfl
    obtain ⟨u', hu', rfl⟩ := (hm u).mp hu
    dsimp only
    split
    · exact .inr ⟨by rw [hid], hdesc⟩
    · exact .inl hu'
  | _ => exact .inl hu

lemma Moves.written_identity (h : Moves db others t db' p) (ht : Sound db t) {i : IdentityRow}
    (hi : i ∈ db'.identities) : i ∈ db.identities ∨ p = .returned i.userId ∧ i.Holds t.identity := by
  unfold Sound at ht
  cases h with
  | committed u i' users identities h _ hins =>
    rw [h] at ht
    rcases (hins.mem i).mp hi with hold | rfl
    · exact .inl hold
    · exact .inr ⟨by rw [ht.2.2.1], ht.2.1⟩
  | _ => exact .inl hi

/-- A step in which a call raises leaves the committed rows as they are. -/
lemma Moves.raised_unchanged {e : PyError} (h : Moves db others t db' (.raised e)) : db' = db := by
  cases h
  rfl

lemma mem_middle : a ∈ l ++ t :: r ↔ a = t ∨ a ∈ l ++ r :=
  List.perm_middle.mem_iff.trans List.mem_cons

theorem Consistent.step {c c' : Config} (hs : Step c c') (h : Consistent init c) : Consistent init c' := by
  cases hs with
  | call identity =>
    have hkeep : ∀ {P : Txn → Prop}, (∃ t ∈ c.calls, P t) → ∃ t ∈ c.calls ++ [⟨identity, .begun⟩], P t :=
      fun ⟨t, ht, hP⟩ => ⟨t, List.mem_append_left _ ht, hP⟩
    refine ⟨h.toBijective, h.provisioned, fun u hu => (h.users u hu).imp_right hkeep,
      fun i hi => (h.identities i hi).imp_right hkeep, fun t ht => ?_, ?_⟩
    · rcases List.mem_append.mp ht with ht | ht
      · exact h.sound t ht
      · obtain rfl := List.mem_singleton.mp ht
        trivial
    · refine List.pairwise_append.mpr ⟨h.apart, List.pairwise_singleton _ _, fun t ht t' ht' => ?_⟩
      obtain rfl := List.mem_singleton.mp ht'
      exact ⟨fun _ _ _ hb => (nomatch hb), fun _ _ _ hb => (nomatch hb)⟩
  | @exec db db' l r t t' uuid hexec =>
    obtain ⟨hid, hmoves⟩ := exec_moves hexec
    obtain ⟨identity, phase⟩ := t'
    obtain rfl : identity = t.identity := hid
    dsimp only at hmoves
    have ht : Sound db t := h.sound t (mem_middle.mpr (.inl rfl))
    obtain ⟨hapart, hothers⟩ := List.pairwise_cons.mp ((List.pairwise_middle Apart.symm).mp h.apart)
    -- the call has not returned before, so rows written earlier belong to the others
    have hkeep : ∀ {P : Txn → Prop} {userId : Uuid}, (∃ a ∈ l ++ t :: r, a.phase = .returned userId ∧ P a) →
        ∃ a ∈ l ++ ⟨t.identity, phase⟩ :: r, a.phase = .returned userId ∧ P a := by
      rintro P userId ⟨a, ha, hphase, hP⟩
      rcases mem_middle.mp ha with rfl | hother
      · have := hmoves.running
        rw [hphase] at this
        cases this
      · exact ⟨a, mem_middle.mpr (.inr hother), hphase, hP⟩
    refine ⟨hmoves.bijective ht h.toBijective, hmoves.provisioned ht h.provisioned, ?_, ?_, ?_, ?_⟩
    · intro u hu
      rcases hmoves.written_user ht hu with hold | ⟨hphase, hdesc⟩
      · exact (h.users u hold).imp_right hkeep
      · exact .inr ⟨_, mem_middle.mpr (.inl rfl), hphase, hdesc⟩
    · intro i hi
      rcases hmoves.written_identity ht hi with hold | ⟨hphase, hholds⟩
      · exact (h.identities i hold).imp_right hkeep
      · exact .inr ⟨_, mem_middle.mpr (.inl rfl), hphase, hholds⟩
    · intro a ha
      rcases mem_middle.mp ha with rfl | hother
      · exact hmoves.sound_self ht
      · exact hmoves.sound_other (h.sound a (mem_middle.mpr (.inr hother))) (hapart a hother)
    · refine (List.pairwise_middle Apart.symm).mpr (List.pairwise_cons.mpr ⟨fun a ha => ?_, hothers⟩)
      exact hmoves.apart ha (hapart a ha)

lemma consistent (hinit : Bijective init) {c : Config} (hc : Reachable init c) : Consistent init c := by
  induction hc with
  | start => exact ⟨hinit, fun u hu => .inl ⟨u, hu, rfl⟩, fun u hu => .inl hu, fun i hi => .inl hi,
      fun t ht => (nomatch ht), List.Pairwise.nil⟩
  | step _ hs ih => exact ih.step hs

/-- A call that has not ended can make its next step, unless it waits for the lock of a user row
that another call updated. -/
theorem exec_isSome (hinit : Bijective init) {c : Config} (hc : Reachable init c) (uuid : Uuid)
    (hcalls : c.calls = l ++ t :: r) (hrunning : t.phase.ended = false) :
    (exec uuid c.db (l ++ r) t).isSome ∨ ∃ userId, t.phase = .found userId ∧
      ∃ a ∈ l ++ r, ∃ u ∈ a.phase.users, u.id = userId := by
  have hsound := (consistent hinit hc).sound t (by rw [hcalls]; exact mem_middle.mpr (.inl rfl))
  unfold Sound at hsound
  unfold exec
  cases hphase : t.phase with
  | begun =>
    refine .inl ?_
    dsimp only
    split <;> rfl
  | missed =>
    refine .inl ?_
    dsimp only
    split
    · split <;> rfl
    · rfl
  | found userId =>
    dsimp only
    split
    · next hlock => exact .inr ⟨userId, rfl, hlock⟩
    · split <;> exact .inl rfl
  | insertedUser u =>
    refine .inl ?_
    dsimp only
    split
    · split <;> rfl
    · rfl
  | insertedIdentity u i =>
    rw [hphase] at hsound
    obtain ⟨-, -, -, hu, hi⟩ := hsound
    obtain ⟨users, husers, -⟩ := insertRow_of_fresh hu
    obtain ⟨identities, hids, -⟩ := insertRow_of_fresh hi
    simp [husers, hids]
  | updatedUser userId u =>
    cases u with
    | none => exact .inl rfl
    | some new =>
      rw [hphase] at hsound
      obtain ⟨hid, -, hfree⟩ := hsound.2 new rfl
      have haccepted : (c.db.users.tryModify (fun u => u.id = userId) (fun _ => new)).isSome := by
        refine tryModify_isSome.mpr fun a ha b hb hne hclash => ?_
        simp only [decide_eq_true_eq] at hclash
        by_cases haid : a.id = userId
        · have hbid : b.id ≠ userId := fun hbid => hne (eq_of_clash ha hb (.inl (haid.trans hbid.symm)))
          rw [if_pos haid, if_neg hbid] at hclash
          exact (hfree b hb).elim hbid fun hno => hno (Keyed.symm _ _ hclash)
        · rw [if_neg haid] at hclash
          by_cases hbid : b.id = userId
          · rw [if_pos hbid] at hclash
            exact (hfree a ha).elim haid fun hno => hno hclash
          · rw [if_neg hbid] at hclash
            exact hne (eq_of_clash ha hb hclash)
      obtain ⟨users, husers⟩ := Option.isSome_iff_exists.mp haccepted
      simp [husers]
  | returned userId => simp [hphase, Phase.ended] at hrunning
  | raised e => simp [hphase, Phase.ended] at hrunning

/-- However the statements of concurrent calls interleave: a call that returned gives the user that its
identity, as the columns hold it, is linked to by exactly one row; different identities are linked to
different users; every provisioned user has an identity; and every row was committed by a call that returned. -/
theorem provisioned_once (hinit : Bijective init) {c : Config} (hc : Reachable init c) :
    (∀ t ∈ c.calls, ∀ userId, t.phase = .returned userId →
      (∃! i, i ∈ c.db.identities ∧ i.Holds t.identity) ∧
      (∃ i ∈ c.db.identities, i.Holds t.identity ∧ i.userId = userId) ∧ ∃ u ∈ c.db.users, u.id = userId) ∧
    (∀ i ∈ c.db.identities, ∀ i' ∈ c.db.identities, i.userId = i'.userId →
      (i.issuer, i.subject) = (i'.issuer, i'.subject)) ∧
    (∀ u ∈ c.db.users, (∃ u₀ ∈ init.users, u₀.id = u.id) ∨ ∃ i ∈ c.db.identities, i.userId = u.id) ∧
    (∀ u ∈ c.db.users, u ∈ init.users ∨
      ∃ t ∈ c.calls, t.phase = .returned u.id ∧ u.Describes t.identity) ∧
    (∀ i ∈ c.db.identities, i ∈ init.identities ∨
      ∃ t ∈ c.calls, t.phase = .returned i.userId ∧ i.Holds t.identity) ∧
    ∀ uuid l t r db' t' e, c.calls = l ++ t :: r → exec uuid c.db (l ++ r) t = some (db', t') →
      t'.phase = .raised e → db' = c.db := by
  have h := consistent hinit hc
  refine ⟨fun t ht userId hphase => ?_, fun i hi i' hi' heq => ?_, h.provisioned, h.users, h.identities,
    fun uuid l t r db' t' e _ hexec hphase => ?_⟩
  · have hsound := h.sound t ht
    unfold Sound at hsound
    rw [hphase] at hsound
    obtain ⟨i, hi, hholds, rfl⟩ := hsound
    refine ⟨⟨i, ⟨hi, hholds⟩, fun i' h' => ?_⟩, ⟨i, hi, hholds, rfl⟩, h.owned i hi⟩
    exact eq_of_clash h'.1 hi (.inr (h'.2.same hholds))
  · rw [h.injective i hi i' hi' heq]
  · have hmoves := (exec_moves hexec).2
    rw [hphase] at hmoves
    exact hmoves.raised_unchanged

/-- The call at position `j` makes its next step, if it can. -/
def Config.advance (c : Config) (j : ℕ) (uuid : Uuid) : Config :=
  match c.calls.drop j with
  | [] => c
  | t :: r =>
    match exec uuid c.db (c.calls.take j ++ r) t with
    | some (db, t') => ⟨db, c.calls.take j ++ t' :: r⟩
    | none => c

lemma Reachable.advance {c : Config} (hc : Reachable init c) (j : ℕ) (uuid : Uuid) :
    Reachable init (c.advance j uuid) := by
  unfold Config.advance
  split
  · exact hc
  · next t r hdrop =>
    split
    · next db t' hexec =>
      have hcalls : c = ⟨c.db, c.calls.take j ++ t :: r⟩ := by rw [← hdrop, List.take_append_drop]
      rw [hcalls] at hc
      exact hc.step (.exec uuid hexec)
    · exact hc

namespace Race

def identity : Identity := ⟨"https://id.example", "subject-1", "user@example.com", "User One"⟩

def noUsers : Database := ⟨default, default⟩

lemma bijective_noUsers : Bijective noUsers :=
  ⟨fun _ h => absurd h not_mem_default, fun _ h => absurd h not_mem_default⟩

/-- Both calls find no identity; the first one inserts its user before the second. -/
def raced : Config :=
  let start : Config := ⟨noUsers, [⟨identity, .begun⟩, ⟨identity, .begun⟩]⟩
  ((((((start.advance 0 0).advance 1 0).advance 0 1).advance 1 2).advance 0 3).advance 0 0)

lemma reachable_raced : Reachable noUsers raced := by
  have hstart : Reachable noUsers ⟨noUsers, [⟨identity, .begun⟩, ⟨identity, .begun⟩]⟩ :=
    (Reachable.start.step (.call identity)).step (.call identity)
  exact (((((hstart.advance 0 0).advance 1 0).advance 0 1).advance 1 2).advance 0 3).advance 0 0

end Race

open Race in
theorem provisioned_once_raced : raced.calls.map Txn.phase = [.returned 1, .raised .integrityError] ∧
    ∃! i, i ∈ raced.db.identities ∧ i.Holds Race.identity := by
  have hphases : raced.calls = [⟨Race.identity, .returned 1⟩, ⟨Race.identity, .raised .integrityError⟩] := by
    decide +kernel
  refine ⟨by rw [hphases]; rfl, ?_⟩
  exact ((provisioned_once bijective_noUsers reachable_raced).1 ⟨Race.identity, .returned 1⟩
    (by rw [hphases]; exact List.mem_cons_self) 1 rfl).1

namespace Padded

/-- 512 characters and a space. -/
def subject : Str := ⟨List.replicate 512 97 ++ [32]⟩

def identity : Identity := ⟨"https://id.example", subject, "user@example.com", "User One"⟩

/-- A call for this subject runs to its end. -/
def returned : Config :=
  let start : Config := ⟨Race.noUsers, [⟨identity, .begun⟩]⟩
  (((start.advance 0 0).advance 0 1).advance 0 2).advance 0 0

lemma reachable_returned : Reachable Race.noUsers returned :=
  (((((Reachable.start.step (.call identity)).advance 0 0).advance 0 1).advance 0 2).advance 0 0)

lemma length_subject : 512 < subject.codes.length := by
  rw [subject, List.length_append, List.length_replicate]
  decide

lemma calls_returned : returned.calls = [⟨identity, .returned 1⟩] := by decide +kernel

end Padded

open Padded in
/-- The call returned, and no row has the subject that it was called with. -/
theorem not_linked_padded : ¬∀ (init : Database) (c : Config), Bijective init → Reachable init c →
    ∀ t ∈ c.calls, ∀ userId, t.phase = .returned userId → ∃ i ∈ c.db.identities, i.Stores t.identity := by
  intro h
  obtain ⟨i, -, hstores⟩ := h Race.noUsers returned Race.bijective_noUsers reachable_returned
    ⟨Padded.identity, .returned 1⟩ (by rw [calls_returned]; exact List.mem_cons_self) 1 rfl
  exact not_stores_of_length length_subject hstores

end Pentagon5.Auth.Provisioning
