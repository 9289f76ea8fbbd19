import LexMachine.Proofs.Regex.Groups
import LexMachine.Regex.Search

/-!
# Where hits lie

A hit lies in the text that is searched, and its groups lie in the hit (`Hit.Within`). A branch
only moves forward and saves the positions that it passes, so what it has saved is in order of time
and of place at once (`Branch.Sound`). Since the program closes what it opens, the stop of a group
is saved after its start, and so lies behind it.
-/

namespace LexMachine.Regex

/-- A hit lies in a text of so many characters, and its groups lie in the hit. -/
structure Hit.Within (h : Hit) (size : Nat) : Prop where
  stop : h.stop ≤ size
  groups : ∀ start stop, some (start, stop) ∈ h.groups →
    h.start ≤ start ∧ start ≤ stop ∧ stop ≤ h.stop

/-- The start of a group has been saved and its stop has not been since. The latest slot saved comes
first. -/
def Dangles (i : Nat) : List (Nat × Nat) → Prop
  | [] => False
  | s :: saves => s.1 = 2 * i ∨ s.1 ≠ 2 * i + 1 ∧ Dangles i saves

/-- A branch of a search that started at a position of a text of so many characters. -/
structure Branch.Sound (opened : Nat → List Nat) (start size : Nat) (b : Branch) : Prop where
  forward : start ≤ b.pos
  length : b.pos + b.rest.length = size
  saves : ∀ s ∈ b.saves, start ≤ s.2 ∧ s.2 ≤ b.pos
  latest : b.saves.Pairwise fun s t => t.2 ≤ s.2
  dangling : ∀ i, Dangles i b.saves → i ∈ opened b.next

/-- The branches that a step leads to. -/
def Step.branches : Step → List Branch
  | .stuck | .accepted => []
  | .stay b | .advance b => [b]
  | .fork _ first second => [first, second]

variable {opened : Nat → List Nat} {start size : Nat} {p : Program} {b b' : Branch}

theorem Branch.Sound.at_target {i : Instr} (h : b.Sound opened start size)
    (hi : i.Fits opened p.code.size b.next) (hafter : i.after (opened b.next) = opened b.next)
    {n : Nat} (hn : n ∈ i.targets) : ({ b with next := n } : Branch).Sound opened start size where
  forward := h.forward
  length := h.length
  saves := h.saves
  latest := h.latest
  dangling j hj := hi.keeps n hn (by rw [hafter]; exact h.dangling j hj)

theorem Branch.Sound.advance {c : Char} {rest : List Char} (h : b.Sound opened start size)
    (hrest : b.rest = c :: rest) :
    ({ b with pos := b.pos + 1, before := some c, rest } : Branch).Sound opened start size where
  forward := Nat.le_succ_of_le h.forward
  length := by
    have := h.length
    simp only [hrest, List.length_cons] at this ⊢
    omega
  saves s hs := ⟨(h.saves s hs).1, Nat.le_succ_of_le (h.saves s hs).2⟩
  latest := h.latest
  dangling := h.dangling

/-- A position is saved behind all those that have been saved before. -/
theorem Branch.Sound.save {slot next : Nat} (h : b.Sound opened start size)
    (fits : (Instr.save slot next).Fits opened p.code.size b.next) :
    ({ b with next, saves := (slot, b.pos) :: b.saves } : Branch).Sound opened start size where
  forward := h.forward
  length := h.length
  saves := by
    simp only [List.mem_cons, forall_eq_or_imp]
    exact ⟨⟨h.forward, Nat.le_refl _⟩, h.saves⟩
  latest := List.pairwise_cons.2 ⟨fun s hs => (h.saves s hs).2, h.latest⟩
  dangling j hj := by
    refine fits.keeps next (by simp [Instr.targets]) ?_
    -- the group starts here, or it has dangled before and does not stop here
    rcases hj with rfl | ⟨hslot, hj⟩
    · simp [Instr.after]
    · have := h.dangling j hj
      simp only at hslot
      simp only [Instr.after]
      split
      · exact List.mem_cons_of_mem _ this
      · simp only [List.mem_filter, decide_eq_true_eq]
        exact ⟨this, by omega⟩

/-- **What one step keeps.** -/
theorem Branch.Sound.step (h : b.Sound opened start size)
    (hp : ∀ k (i : Instr), p.code[k]? = some i → i.Fits opened p.code.size k)
    (hb : b' ∈ (b.step p).branches) : b'.Sound opened start size := by
  unfold Branch.step at hb
  cases hi : p.code[b.next]? with
  | none => simp [hi, Step.branches] at hb
  | some i =>
    have fits := hp _ _ hi
    cases i with
    | accept => simp [hi, Step.branches] at hb
    | take s next =>
      simp only [hi] at hb
      split at hb
      · simp [Step.branches] at hb
      · rename_i c rest hrest
        split at hb
        · obtain rfl := by simpa [Step.branches] using hb
          exact (h.at_target fits rfl (by simp [Instr.targets] : next ∈ _)).advance hrest
        · simp [Step.branches] at hb
    | check l next =>
      simp only [hi] at hb
      split at hb
      · obtain rfl := by simpa [Step.branches] using hb
        exact h.at_target fits rfl (by simp [Instr.targets])
      · simp [Step.branches] at hb
    | save slot next =>
      obtain rfl := by simpa [hi, Step.branches] using hb
      exact h.save fits
    | fork mark first second =>
      simp only [hi, Step.branches, List.mem_cons, List.not_mem_nil, or_false] at hb
      rcases hb with rfl | rfl
      · exact h.at_target fits rfl (by simp [Instr.targets])
      · exact h.at_target fits rfl (by simp [Instr.targets])

/-- **The branch that a search accepts** is one of those that the given ones lead to. -/
theorem accepted_of_explore {P : Branch → Prop}
    (hstep : ∀ b b', P b → b' ∈ (b.step p).branches → P b') {steps : Nat} {branches : List Branch}
    {m m' : Memory} (hbranches : ∀ b ∈ branches, P b)
    (h : explore p steps branches m = (some b, m')) : P b ∧ b.step p = .accepted := by
  fun_induction explore p steps branches m with
  | case1 => cases h
  | case4 _ c waiting m hc =>
    cases h
    exact ⟨hbranches b (by simp), hc⟩
  | case2 _ waiting m ih | case3 _ c waiting m hc ih | case7 _ c waiting m d hc hd hb ih
  | case9 _ c waiting m mark first second hc hm ih
  | case10 _ c waiting m mark first second hc hm hf ih =>
    exact ih (fun b hb => hbranches b (List.mem_cons_of_mem _ hb)) h
  | case5 _ c waiting m d hc ih | case6 _ c waiting m d hc hd ih
  | case8 _ c waiting m d hc hd _ beyond hb ih =>
    refine ih (fun b hb => ?_) h
    rcases List.mem_cons.1 hb with rfl | hb
    · exact hstep c b (hbranches c (by simp)) (by simp [hc, Step.branches])
    · exact hbranches b (List.mem_cons_of_mem _ hb)
  | case11 _ c waiting m mark first second hc hm forks hf ih =>
    refine ih (fun b hb => ?_) h
    rcases List.mem_cons.1 hb with rfl | hb
    · exact hstep c b (hbranches c (by simp)) (by simp [hc, Step.branches])
    · rcases List.mem_cons.1 hb with rfl | hb
      · exact hstep c b (hbranches c (by simp)) (by simp [hc, Step.branches])
      · exact hbranches b (List.mem_cons_of_mem _ hb)

theorem code_of_accepted (h : b.step p = .accepted) : p.code[b.next]? = some .accept := by
  unfold Branch.step at h
  split at h
  · cases h
  · assumption
  · cases h
  · split at h <;> cases h
  · split at h
    · cases h
    · split at h <;> cases h
  · cases h

/-! ## The groups of a hit -/

theorem slot_mem {saves : List (Nat × Nat)} {slot pos : Nat} (h : slot? saves slot = some pos) :
    (slot, pos) ∈ saves := by
  unfold slot? at h
  obtain ⟨s, hs, rfl⟩ := Option.map_eq_some_iff.1 h
  have hslot : s.1 = slot := by simpa using List.find?_some hs
  exact hslot ▸ List.mem_of_find?_eq_some hs

/-- A group that does not dangle stops behind its start. -/
theorem start_le_stop {i : Nat} {saves : List (Nat × Nat)} {first last : Nat}
    (hsaves : saves.Pairwise fun s t => t.2 ≤ s.2) (hdangles : ¬ Dangles i saves)
    (hfirst : slot? saves (2 * i) = some first) (hlast : slot? saves (2 * i + 1) = some last) :
    first ≤ last := by
  induction saves with
  | nil => simp [slot?] at hfirst
  | cons s saves ih =>
    obtain ⟨hhead, htail⟩ := List.pairwise_cons.1 hsaves
    simp only [Dangles, not_or, not_and] at hdangles
    have skipped : slot? (s :: saves) (2 * i) = slot? saves (2 * i) := by
      simp [slot?, hdangles.1]
    rw [skipped] at hfirst
    by_cases hs : s.1 = 2 * i + 1
    · obtain rfl : s.2 = last := by simpa [slot?, List.find?_cons, hs] using hlast
      exact hhead _ (slot_mem hfirst)
    · have skipped : slot? (s :: saves) (2 * i + 1) = slot? saves (2 * i + 1) := by
        simp [slot?, hs]
      exact ih htail (hdangles.2 hs) hfirst (skipped ▸ hlast)

/-- **An accepted branch is a hit in bounds.** -/
theorem Branch.Sound.within (h : b.Sound opened start size)
    (hp : ∀ k (i : Instr), p.code[k]? = some i → i.Fits opened p.code.size k)
    (hb : b.step p = .accepted) (hpos : start < b.pos) (count : Nat) :
    (⟨start, b.pos, hpos, savedGroups count b.saves⟩ : Hit).Within size := by
  have closed : opened b.next = [] := (hp _ _ (code_of_accepted hb)).accepts rfl
  refine ⟨?_, fun first last hgroup => ?_⟩
  · have := h.length
    simp only
    omega
  · simp only [savedGroups, List.mem_map, List.mem_range] at hgroup
    obtain ⟨i, -, hi⟩ := hgroup
    simp only [Option.bind_eq_bind, Option.bind_eq_some_iff, Option.pure_def, Option.some.injEq,
      Prod.mk.injEq] at hi
    obtain ⟨_, hfirst, _, hlast, rfl, rfl⟩ := hi
    have hdangles : ¬ Dangles (i + 1) b.saves := fun hd => by
      have := h.dangling _ hd
      simp [closed] at this
    exact ⟨(h.saves _ (slot_mem hfirst)).1, start_le_stop h.latest hdangles hfirst hlast,
      (h.saves _ (slot_mem hlast)).2⟩

/-! ## The search through a text -/

theorem within_of_attempt (hp : p.Balanced) {pos : Nat} {before : Option Char} {rest : List Char}
    {m m' : Memory} {hit : Hit} (h : attempt p pos before rest m = (some hit, m')) :
    hit.Within (pos + rest.length) := by
  obtain ⟨opened, hp⟩ := hp
  unfold attempt at h
  split at h
  · cases h
  · rename_i b m'' hexplore
    split at h
    · rename_i hpos
      obtain ⟨sound, accepted⟩ := accepted_of_explore (fun _ _ hb => hb.step hp)
        (P := Branch.Sound opened pos (pos + rest.length)) (fun b hb => by
          obtain rfl := List.mem_singleton.1 hb
          exact ⟨Nat.le_refl _, rfl, by simp, List.Pairwise.nil, fun i hi => hi.elim⟩) hexplore
      cases h
      exact sound.within hp accepted hpos _
    · cases h

section Search

variable {α : Type} {candidates others : List (Candidate α)} {pos : Nat} {before : Option Char}
  {rest : List Char} {a : α} {hit : Hit}

/-- The programs of candidates and what they stand for. -/
def subjects (candidates : List (Candidate α)) : List (Program × α) :=
  candidates.map fun c => (c.program, c.meaning)

/-- A hit that some expression has in a text. -/
def IsHit (expressions : List (Program × α)) (size : Nat) (a : α) (hit : Hit) : Prop :=
  (∃ p, (p, a) ∈ expressions) ∧ hit.Within size

theorem isHit_of_attemptEach (hp : ∀ e ∈ subjects candidates, e.1.Balanced)
    (h : attemptEach pos before rest candidates = (some (a, hit), others)) :
    IsHit (subjects candidates) (pos + rest.length) a hit := by
  induction candidates generalizing others with
  | nil => cases h
  | cons c candidates ih =>
    simp only [subjects, List.map_cons, List.mem_cons, forall_eq_or_imp] at hp
    rw [attemptEach] at h
    split at h
    · rename_i hattempt
      cases h
      exact ⟨⟨c.program, by simp [subjects]⟩, within_of_attempt hp.1 hattempt⟩
    · cases hrest : attemptEach pos before rest candidates with
      | mk found others' =>
        rw [hrest] at h
        obtain rfl := (Prod.mk.inj h).1
        obtain ⟨⟨p, hmem⟩, within⟩ := ih hp.2 hrest
        exact ⟨⟨p, List.mem_cons_of_mem _ hmem⟩, within⟩

theorem subjects_attemptEach (h : attemptEach pos before rest candidates = (none, others)) :
    subjects others = subjects candidates := by
  induction candidates generalizing others with
  | nil => cases h; rfl
  | cons c candidates ih =>
    rw [attemptEach] at h
    split at h
    · cases h
    · cases hrest : attemptEach pos before rest candidates with
      | mk found others' =>
        rw [hrest] at h
        obtain ⟨rfl, rfl⟩ := Prod.mk.inj h
        rw [subjects, List.map_cons, ← subjects, ih hrest]
        rfl

theorem isHit_of_searchFrom (hp : ∀ e ∈ subjects candidates, e.1.Balanced)
    (h : searchFrom pos before rest candidates = some (a, hit)) :
    IsHit (subjects candidates) (pos + rest.length) a hit := by
  induction rest generalizing pos before candidates with
  | nil => cases h
  | cons c rest ih =>
    rw [searchFrom] at h
    split at h
    · rename_i hfound
      obtain rfl := Option.some.inj h
      exact isHit_of_attemptEach hp hfound
    · rename_i others hnone
      have same := subjects_attemptEach hnone
      have := ih (same ▸ hp) h
      rwa [same, Nat.add_right_comm, Nat.add_assoc, ← List.length_cons] at this

/-- **Hits lie in the text**, and belong to one of the expressions. -/
theorem isHit_of_search {expressions : List (Regex × α)} {subject : List Char}
    (hp : ∀ e ∈ expressions, e.1.program.Balanced)
    (h : search expressions subject = some (a, hit)) :
    (∃ r, (r, a) ∈ expressions) ∧ hit.Within subject.length := by
  have same : subjects (expressions.map fun e =>
      (⟨e.1.program, e.2, .fresh e.1.program 0 subject⟩ : Candidate α)) =
      expressions.map fun e => (e.1.program, e.2) := by
    simp [subjects]
  have balanced : ∀ e ∈ expressions.map (fun e => (e.1.program, e.2)), e.1.Balanced := by
    simp only [List.mem_map, forall_exists_index, and_imp]
    rintro _ e he rfl
    exact hp e he
  obtain ⟨⟨p, hmem⟩, within⟩ := isHit_of_searchFrom (same ▸ balanced) h
  rw [same] at hmem
  obtain ⟨e, he, heq⟩ := List.mem_map.1 hmem
  obtain ⟨-, rfl⟩ := Prod.mk.inj heq
  exact ⟨⟨e.1, he⟩, by simpa using within⟩

end Search

/-! ## The groups of a hit -/

theorem length_groups_of_attempt {p : Program} {pos : Nat} {before : Option Char} {rest : List Char}
    {m m' : Memory} {hit : Hit} (h : attempt p pos before rest m = (some hit, m')) :
    hit.groups.length = p.groups := by
  unfold attempt at h
  split at h
  · cases h
  · split at h
    · cases h
      simp [savedGroups]
    · cases h

theorem length_groups_of_searchFrom {α : Type} {p : Program} {a : α} {m : Memory} {pos : Nat}
    {before : Option Char} {rest : List Char} {found : α × Hit}
    (h : searchFrom pos before rest [⟨p, a, m⟩] = some found) :
    found.2.groups.length = p.groups := by
  induction rest generalizing pos before m with
  | nil => cases h
  | cons c rest ih =>
    simp only [searchFrom, attemptEach] at h
    cases hattempt : attempt p pos before (c :: rest) m with
    | mk hit m' =>
      rw [hattempt] at h
      cases hit with
      | none => exact ih h
      | some hit =>
        obtain rfl := Option.some.inj h
        exact length_groups_of_attempt hattempt

/-- A hit says of each group of its expression whether the group took part. -/
theorem length_groups_of_find? {r : Regex} {subject : List Char} {hit : Hit}
    (h : r.find? subject = some hit) : hit.groups.length = r.groupCount := by
  obtain ⟨found, hfound, rfl⟩ := Option.map_eq_some_iff.1 h
  exact length_groups_of_searchFrom hfound

end LexMachine.Regex
