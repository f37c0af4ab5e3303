import BuildAdmission.Proofs.Graph.Reach
import Mathlib.Data.List.Perm.Subperm

namespace BuildAdmission.Graph

open Relation

variable {g : Graph} {path deps : List UnitId} {id x y u v d : UnitId} {s t : Search} {fuel : Nat}
  {cs cs' : List (List UnitId)}

/-- One of the cycles goes through a unit that is tangled with `u`. -/
def Reports (g : Graph) (cs : List (List UnitId)) (u : UnitId) : Prop :=
  ∃ c ∈ cs, ∃ v ∈ c, g.Tangled u v

theorem Reports.mono (h : g.Reports cs u) (hcs : ∀ c ∈ cs, c ∈ cs') : g.Reports cs' u := by
  obtain ⟨c, hc, hv⟩ := h
  exact ⟨c, hcs c hc, hv⟩

theorem Reports.of_tangled (h : g.Reports cs v) (huv : g.Tangled u v) : g.Reports cs u := by
  obtain ⟨c, hc, w, hw, hvw⟩ := h
  exact ⟨c, hc, w, hw, huv.trans hvw⟩

/-- What a search knows while it stands at the end of a path. A unit that it is done with leads
only to such units and to the path, and its dependencies on the path have been reported. If it is on
a cycle then it has been reported, or it is still tangled with the path. -/
structure Knows (g : Graph) (path : List UnitId) (s : Search) : Prop where
  apart : ∀ y ∈ path, y ∉ s.finished
  closed : ∀ x ∈ s.finished, ∀ y, g.DependsOn x y → g.live.contains y = true →
    y ∈ s.finished ∨ y ∈ path
  reported : ∀ x ∈ s.finished, ∀ y ∈ path, g.DependsOn x y → g.Reports s.cycles y
  tangled : ∀ x ∈ s.finished, g.OnCycle x → g.Reports s.cycles x ∨ ∃ y ∈ path, g.Tangled x y
  cyclic : ∀ c ∈ s.cycles, g.IsCycle c

/-- A search only ever learns more. -/
structure Extends (s t : Search) : Prop where
  finished : ∀ x ∈ s.finished, x ∈ t.finished
  cycles : ∀ c ∈ s.cycles, c ∈ t.cycles

theorem Extends.refl (s : Search) : Extends s s := ⟨fun _ h => h, fun _ h => h⟩

theorem Extends.trans {r : Search} (h : Extends r s) (h' : Extends s t) : Extends r t :=
  ⟨fun x hx => h'.finished x (h.finished x hx), fun c hc => h'.cycles c (h.cycles c hc)⟩

/-- A dependency that has been dealt with at the end of a path. -/
structure Met (g : Graph) (path : List UnitId) (s : Search) (d : UnitId) : Prop where
  seen : g.live.contains d = true → d ∈ s.finished ∨ d ∈ path
  reported : d ∈ path → g.Reports s.cycles d

theorem Met.mono (h : Met g path s d) (hst : Extends s t) : Met g path t d :=
  ⟨fun live => (h.seen live).imp_left (hst.finished d), fun hd => (h.reported hd).mono hst.cycles⟩

/-! ### Going down the path and up again -/

theorem Knows.push (h : Knows g path s) (live : g.live.contains id = true) (hpath : id ∉ path)
    (fresh : id ∉ s.finished) : Knows g (path ++ [id]) s := by
  refine ⟨?_, ?_, ?_, ?_, h.cyclic⟩
  · intro y hy
    rcases List.mem_append.1 hy with hy | hy
    · exact h.apart y hy
    · rw [List.mem_singleton.1 hy]
      exact fresh
  · intro x hx y hxy hlive
    exact (h.closed x hx y hxy hlive).imp_right (List.mem_append_left _)
  · intro x hx y hy hxy
    rcases List.mem_append.1 hy with hy | hy
    · exact h.reported x hx y hy hxy
    · rw [List.mem_singleton.1 hy] at hxy
      exact ((h.closed x hx id hxy live).elim fresh hpath).elim
  · intro x hx hcycle
    refine (h.tangled x hx hcycle).imp_right ?_
    rintro ⟨y, hy, hxy⟩
    exact ⟨y, List.mem_append_left _ hy, hxy⟩

theorem Knows.reports_last (h : Knows g (path ++ [id]) s)
    (met : ∀ d, g.DependsOn id d → Met g (path ++ [id]) s d) (hcycle : g.OnCycle id)
    (apart : ∀ y ∈ path, ¬ g.Tangled id y) : g.Reports s.cycles id := by
  -- As long as a walk from the unit leads back to it, it stays among what the search is done with.
  have around (w : UnitId) (hw : ReflTransGen g.DependsOn id w)
      (back : ReflTransGen g.DependsOn w id) : w = id ∨ w ∈ s.finished := by
    induction hw with
    | refl => exact .inl rfl
    | @tail w w' hw hstep ih =>
        have live : g.live.contains w' = true := by
          rcases ReflTransGen.cases_head back with rfl | ⟨_, hfirst, _⟩
          · exact contains_of_onCycle hcycle
          · exact contains_of_dependsOn hfirst
        have known : w' ∈ s.finished ∨ w' ∈ path ++ [id] := by
          rcases ih (.head hstep back) with rfl | hfinished
          · exact (met w' hstep).seen live
          · exact h.closed w hfinished w' hstep live
        rcases known with hfinished | hpath
        · exact .inr hfinished
        · rcases List.mem_append.1 hpath with hpath | hid
          · exact absurd ⟨hw.tail hstep, back⟩ (apart w' hpath)
          · exact .inl (List.mem_singleton.1 hid)
  obtain ⟨w, hw, hlast⟩ := TransGen.tail'_iff.1 hcycle
  rcases around w hw (.single hlast) with rfl | hfinished
  · exact (met w hlast).reported (List.mem_append_right _ List.mem_cons_self)
  · exact h.reported w hfinished id (List.mem_append_right _ List.mem_cons_self) hlast

/-- The search is done with the unit at the end of the path once all its dependencies have been
dealt with. -/
theorem Knows.pop (h : Knows g (path ++ [id]) s) (hpath : id ∉ path)
    (met : ∀ d, g.DependsOn id d → Met g (path ++ [id]) s d) :
    Knows g path { s with finished := s.finished.insert id } := by
  have atPath {y : UnitId} (hy : y ∈ path ++ [id]) : y ∈ path ∨ y = id := by simpa using hy
  have last (hcycle : g.OnCycle id) : g.Reports s.cycles id ∨ ∃ y ∈ path, g.Tangled id y := by
    by_cases apart : ∀ y ∈ path, ¬ g.Tangled id y
    · exact .inl (h.reports_last met hcycle apart)
    · exact .inr (by simpa using apart)
  refine ⟨?_, ?_, ?_, ?_, h.cyclic⟩
  · intro y hy hfinished
    rcases IdSet.mem_insert.1 hfinished with rfl | hfinished
    · exact hpath hy
    · exact h.apart y (List.mem_append_left _ hy) hfinished
  · intro x hx y hxy live
    have known : y ∈ s.finished ∨ y ∈ path ++ [id] := by
      rcases IdSet.mem_insert.1 hx with rfl | hx
      · exact (met y hxy).seen live
      · exact h.closed x hx y hxy live
    rcases known with hy | hy
    · exact .inl (IdSet.mem_insert.2 (.inr hy))
    · exact (atPath hy).symm.imp_left fun hid => IdSet.mem_insert.2 (.inl hid)
  · intro x hx y hy hxy
    rcases IdSet.mem_insert.1 hx with rfl | hx
    · exact (met y hxy).reported (List.mem_append_left _ hy)
    · exact h.reported x hx y (List.mem_append_left _ hy) hxy
  · intro x hx hcycle
    rcases IdSet.mem_insert.1 hx with rfl | hx
    · exact last hcycle
    · rcases h.tangled x hx hcycle with hreports | ⟨y, hy, hxy⟩
      · exact .inl hreports
      · rcases atPath hy with hy | rfl
        · exact .inr ⟨y, hy, hxy⟩
        -- The tangle was with the unit that leaves the path: it now goes by way of that unit.
        · rcases last (hcycle.of_tangled hxy.symm) with hreports | ⟨w, hw, hyw⟩
          · exact .inl (hreports.of_tangled hxy)
          · exact .inr ⟨w, hw, hxy.trans hyw⟩

theorem isCycle_dropWhile (chain : (path ++ [id]).IsChain g.DependsOn) (hstep : g.DependsOn id d)
    (hd : d ∈ path ++ [id]) : g.IsCycle ((path ++ [id]).dropWhile (· ≠ d) ++ [d]) := by
  have longer : (path ++ id :: [d]).IsChain g.DependsOn :=
    List.isChain_split.2 ⟨chain, List.isChain_pair.2 hstep⟩
  obtain ⟨as, bs, hpath, has⟩ := List.eq_append_cons_of_mem hd
  have hdrop : (path ++ [id]).dropWhile (· ≠ d) = d :: bs := by
    rw [hpath, List.dropWhile_append_of_pos, List.dropWhile_cons_of_neg (by simp)]
    intro a ha
    exact decide_eq_true (ne_of_mem_of_not_mem ha has)
  have hlonger : path ++ id :: [d] = as ++ d :: (bs ++ [d]) := by
    calc path ++ id :: [d]
      _ = (path ++ [id]) ++ [d] := by simp
      _ = as ++ d :: (bs ++ [d]) := by simp [hpath]
  rw [hlonger] at longer
  rw [hdrop]
  exact ⟨(List.isChain_split.1 longer).2, d, bs, rfl⟩

theorem Knows.close (h : Knows g (path ++ [id]) s) (chain : (path ++ [id]).IsChain g.DependsOn)
    (hstep : g.DependsOn id d) (hd : d ∈ path ++ [id]) :
    Knows g (path ++ [id])
      { s with cycles := s.cycles ++ [(path ++ [id]).dropWhile (· ≠ d) ++ [d]] } := by
  have grown {u : UnitId} (hu : g.Reports s.cycles u) :
      g.Reports (s.cycles ++ [(path ++ [id]).dropWhile (· ≠ d) ++ [d]]) u :=
    hu.mono fun c hc => List.mem_append_left _ hc
  refine ⟨h.apart, h.closed, fun x hx y hy hxy => grown (h.reported x hx y hy hxy),
    fun x hx hcycle => (h.tangled x hx hcycle).imp_left grown, ?_⟩
  intro c hc
  rcases List.mem_append.1 hc with hc | hc
  · exact h.cyclic c hc
  · rw [List.mem_singleton.1 hc]
    exact isCycle_dropWhile chain hstep hd

theorem close_met (hd : d ∈ path ++ [id]) :
    Met g (path ++ [id])
      { s with cycles := s.cycles ++ [(path ++ [id]).dropWhile (· ≠ d) ++ [d]] } d := by
  refine ⟨fun _ => .inr hd, fun _ => ?_⟩
  exact ⟨_, List.mem_append_right _ List.mem_cons_self, d,
    List.mem_append_right _ List.mem_cons_self, .refl d⟩

/-! ### Visits -/

/-- What is learnt of each unit in turn is known of all of them in the end. -/
theorem Knows.foldl (h : Knows g path s) {f : Search → UnitId → Search} {ids : List UnitId}
    (P : Search → UnitId → Prop) (mono : ∀ s t d, P s d → Extends s t → P t d)
    (step : ∀ s, ∀ d ∈ ids, Knows g path s →
      Knows g path (f s d) ∧ Extends s (f s d) ∧ P (f s d) d) :
    Knows g path (ids.foldl f s) ∧ Extends s (ids.foldl f s) ∧ ∀ d ∈ ids, P (ids.foldl f s) d := by
  induction ids generalizing s with
  | nil => exact ⟨h, .refl s, by simp⟩
  | cons d ids ih =>
      obtain ⟨knows, more, known⟩ := step s d List.mem_cons_self h
      obtain ⟨knows', more', known'⟩ :=
        ih knows fun s e he => step s e (List.mem_cons_of_mem d he)
      refine ⟨knows', more.trans more', ?_⟩
      intro e he
      rcases List.mem_cons.1 he with rfl | he
      · exact mono _ _ _ known more'
      · exact known' e he

/-- A path of live units, each a dependency of the one before, and fuel for the longest such
path. -/
structure Walk (g : Graph) (fuel : Nat) (path : List UnitId) : Prop where
  chain : path.IsChain g.DependsOn
  nodup : path.Nodup
  live : ∀ y ∈ path, g.live.contains y = true
  fuel : g.live.size + 1 ≤ path.length + fuel

theorem Walk.length_le (h : Walk g fuel path) : path.length ≤ g.live.size := by
  rw [← IdMap.length_keys]
  refine (List.subperm_of_subset h.nodup ?_).length_le
  intro y hy
  exact IdMap.mem_keys_iff.2 (contains_iff.1 (h.live y hy))

theorem Walk.snoc (h : Walk g (fuel + 1) (path ++ [id])) (hstep : g.DependsOn id d)
    (live : g.live.contains d = true) (hd : d ∉ path ++ [id]) :
    Walk g fuel ((path ++ [id]) ++ [d]) := by
  refine ⟨?_, ?_, ?_, ?_⟩
  · rw [List.append_assoc]
    exact List.isChain_split.2 ⟨h.chain, List.isChain_pair.2 hstep⟩
  · rw [← List.concat_eq_append]
    exact h.nodup.concat hd
  · intro y hy
    rcases List.mem_append.1 hy with hy | hy
    · exact h.live y hy
    · rw [List.mem_singleton.1 hy]
      exact live
  · have := h.fuel
    simp only [List.length_append, List.length_singleton] at this ⊢
    omega

/-- What a visit does with one dependency of the unit at the end of the path. -/
def meet (g : Graph) (fuel : Nat) (path : List UnitId) (s : Search) (d : UnitId) : Search :=
  if d ∈ path then { s with cycles := s.cycles ++ [path.dropWhile (· ≠ d) ++ [d]] }
  else if d ∈ s.finished || !g.live.contains d then s
  else g.visit fuel path d s

theorem visit_succ (g : Graph) (fuel : Nat) (path : List UnitId) (id : UnitId) (s : Search) :
    g.visit (fuel + 1) path id s =
      let t := (g.dependencies id).foldl (g.meet fuel (path ++ [id])) s
      { t with finished := t.finished.insert id } := rfl

structure Visited (g : Graph) (path : List UnitId) (id : UnitId) (s t : Search) : Prop where
  knows : Knows g path t
  more : Extends s t
  done : id ∈ t.finished

theorem meet_knows (walk : Walk g (fuel + 1) (path ++ [id])) (h : Knows g (path ++ [id]) s)
    (hstep : g.DependsOn id d)
    (visit : ∀ s, Walk g fuel ((path ++ [id]) ++ [d]) → Knows g (path ++ [id]) s → d ∉ s.finished →
      Visited g (path ++ [id]) d s (g.visit (fuel + 1) (path ++ [id]) d s)) :
    Knows g (path ++ [id]) (g.meet (fuel + 1) (path ++ [id]) s d) ∧
      Extends s (g.meet (fuel + 1) (path ++ [id]) s d) ∧
      Met g (path ++ [id]) (g.meet (fuel + 1) (path ++ [id]) s d) d := by
  unfold meet
  split
  · next hd =>
    exact ⟨h.close walk.chain hstep hd, ⟨fun _ hx => hx, fun _ hc => List.mem_append_left _ hc⟩,
      close_met hd⟩
  · next hd =>
    split
    · next known =>
      refine ⟨h, .refl s, ?_, fun hpath => absurd hpath hd⟩
      intro live
      exact .inl (by simpa [live] using known)
    · next known =>
      obtain ⟨fresh, live⟩ : d ∉ s.finished ∧ g.live.contains d = true := by simpa using known
      obtain ⟨knows, more, done⟩ := visit s (walk.snoc hstep live hd) h fresh
      exact ⟨knows, more, fun _ => .inl done, fun hpath => absurd hpath hd⟩

/-- A visit to a unit that has not been met ends with the search done with it. -/
theorem visit_knows (walk : Walk g fuel (path ++ [id])) (h : Knows g path s)
    (fresh : id ∉ s.finished) : Visited g path id s (g.visit (fuel + 1) path id s) := by
  induction fuel generalizing path id s with
  | zero =>
      -- Without fuel the path would hold more units than there are.
      have := walk.length_le
      have := walk.fuel
      omega
  | succ fuel ih =>
      have hpath : id ∉ path := fun hmem =>
        List.disjoint_of_nodup_append walk.nodup hmem List.mem_cons_self
      have live : g.live.contains id = true :=
        walk.live id (List.mem_append_right _ List.mem_cons_self)
      obtain ⟨knows, more, met⟩ := (h.push live hpath fresh).foldl (Met g (path ++ [id]))
        (fun _ _ _ met => met.mono) fun s d hd h => meet_knows walk h hd fun _ => ih
      rw [visit_succ]
      refine ⟨knows.pop hpath met, ⟨?_, more.cycles⟩, IdSet.mem_insert.2 (.inl rfl)⟩
      exact fun x hx => IdSet.mem_insert.2 (.inr (more.finished x hx))

/-! ### The whole search -/

theorem knows_start (g : Graph) : Knows g [] ⟨∅, []⟩ := by
  constructor <;> simp

/-- What the search does with each live unit. -/
def searchFrom (g : Graph) (s : Search) (id : UnitId) : Search :=
  if id ∈ s.finished then s else g.visit (g.live.size + 1) [] id s

theorem detectCycles_eq (g : Graph) :
    g.detectCycles = (g.live.keys.foldl g.searchFrom ⟨∅, []⟩).cycles := rfl

theorem searchFrom_knows (h : Knows g [] s) (live : g.live.contains id = true) :
    Knows g [] (g.searchFrom s id) ∧ Extends s (g.searchFrom s id) ∧
      id ∈ (g.searchFrom s id).finished := by
  unfold searchFrom
  split
  · next known => exact ⟨h, .refl s, known⟩
  · next fresh =>
    have walk : Walk g g.live.size ([] ++ [id]) := by
      refine ⟨.singleton id, List.nodup_singleton id, ?_, Nat.le_of_eq (Nat.add_comm ..)⟩
      intro y hy
      rw [List.mem_singleton.1 hy]
      exact live
    obtain ⟨knows, more, done⟩ := visit_knows walk h fresh
    exact ⟨knows, more, done⟩

/-- Every cycle that the search reports is one. Every unit on a cycle is reported, if not by a
cycle through it then by one through a unit that is tangled with it. -/
theorem detectCycles_spec (g : Graph) :
    (∀ c ∈ g.detectCycles, g.IsCycle c) ∧ ∀ u, g.OnCycle u → g.Reports g.detectCycles u := by
  obtain ⟨knows, _, done⟩ := (knows_start g).foldl (fun s id => id ∈ s.finished)
    (fun _ _ id hid more => more.finished id hid) fun s id hid h =>
      searchFrom_knows h (contains_iff.2 (IdMap.mem_keys_iff.1 hid))
  rw [detectCycles_eq]
  refine ⟨knows.cyclic, ?_⟩
  intro u hu
  have live := IdMap.mem_keys_iff.2 (contains_iff.1 (contains_of_onCycle hu))
  exact (knows.tangled u (done u live) hu).resolve_right (by simp)

end BuildAdmission.Graph
