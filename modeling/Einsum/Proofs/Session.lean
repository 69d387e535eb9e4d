import Einsum.Proofs.Compilation
import Einsum.Proofs.Plan
import Einsum.Proofs.Reading
import Einsum.Proofs.Run
import Einsum.Session

namespace Einsum

structure Program.IsFor (c : Config) (e : Expression) (p : Program) : Prop where
  path : Path.plan e.subscripts c = .ok p.path
  operations : Lowered c p.path p.operations

section

variable {c : Config} {text : String} {n : Int} {e : Expression} {pool : Pool} {p : Program}
  (hp : parse text = .ok e) (hc : e.check n = .ok ())

include hp hc

theorem build_eq_ok (hs : pool.Sound) :
    ∃ p pool', pool.build c text n = .ok (p, pool') ∧ p.IsFor c e ∧ pool'.Sound := by
  have hv := validated_of_parse hp hc
  obtain ⟨path, hplan, hsub, hreach⟩ := Path.plan_reaches hv (inputs_of_parse hp).1 c
  obtain ⟨ops, pool', hlower, hlow⟩ := lowerPath_lowered (c := c) (hsub ▸ hv) hreach pool
  obtain ⟨hl, hps⟩ := hlow hs
  refine ⟨⟨pool'.made, path, ops⟩, { pool' with made := pool'.made + 1 }, ?_,
    ⟨hplan, hl⟩, hps⟩
  simp only [Pool.build, hp, Except.mapError, ok_bind, hc, hplan, hlower]
  rfl

theorem Program.IsFor.subscripts (h : p.IsFor c e) : p.path.subscripts = e.subscripts := by
  obtain ⟨path, hplan, hsub, -⟩ :=
    Path.plan_reaches (validated_of_parse hp hc) (inputs_of_parse hp).1 c
  rwa [Except.ok.inj (h.path.symm.trans hplan)]

theorem Program.IsFor.reaches (h : p.IsFor c e) : p.path.Reaches := by
  obtain ⟨path, hplan, -, hreach⟩ :=
    Path.plan_reaches (validated_of_parse hp hc) (inputs_of_parse hp).1 c
  rwa [Except.ok.inj (h.path.symm.trans hplan)]

theorem Program.IsFor.kernels (h : p.IsFor c e) :
    ∀ op ∈ p.operations, ∃ s : Subscripts, s.Validated ∧
      s.inputs ≠ [] ∧ (2 ≤ s.inputs.length ∨ s.axes ≠ []) ∧ op.kernel.IsFor c s := by
  have hv := validated_of_parse hp hc
  rw [← h.subscripts hp hc] at hv
  intro op hop
  have hlow := h.operations
  generalize p.operations = ops at hop hlow
  cases hlow with
  | @single op' steps one kernel inputs result _ =>
    obtain rfl : op = op' := by simp_all
    have hi := (inputs_of_parse hp).1
    have ha := axes_ne_nil_of_parse hp
    rw [← h.subscripts hp hc] at hi ha
    exact ⟨_, hv, hi, .inr ha, kernel⟩
  | steps ne contracts performs =>
    obtain ⟨step, hs, hperf⟩ := exists_of_mem_right performs hop
    exact ⟨_, validated_steps hv contracts step hs, List.cons_ne_nil _ _, .inl le_rfl,
      hperf.kernel⟩

end

theorem mem_of_mem_distinctBy {α κ : Type} [DecidableEq κ] {key : α → κ} {as : List α}
    {a : α} (h : a ∈ distinctBy key as) : a ∈ as := by
  induction as with
  | nil => exact h
  | cons b as ih =>
    rcases List.mem_cons.mp h with rfl | h
    · exact List.mem_cons_self
    · exact List.mem_cons_of_mem b (ih (List.mem_filter.mp h).1)

theorem compileKernels_eq_ok {ks : List Kernel} (h : ∀ k ∈ ks, k.compile = .ok ()) :
    compileKernels ks = .ok () := by
  induction ks with
  | nil => rfl
  | cons k ks ih =>
    rw [List.forall_mem_cons] at h
    rw [compileKernels, h.1]
    exact ih h.2

theorem isUsablePrefix_of_normalize {settings : Settings} {c : Config}
    (h : settings.normalize = .ok c) :
    Settings.isUsablePrefix c.kernelPrefix = true := by
  rw [Settings.normalize] at h
  obtain ⟨strategy, -, h⟩ := bind_eq_ok h
  obtain ⟨limit, -, h⟩ := bind_eq_ok h
  split at h
  next => cases h
  next =>
    dsimp only at h
    split at h
    next => cases h
    next hu =>
      cases h
      simpa using hu

theorem normalize_default : ({} : Settings).normalize = .ok {} := by
  have hm : "greedy".map Char.toLower = "greedy" := by
    rw [← String.toList_inj, String.toList_map]
    decide
  simp only [Settings.normalize, Settings.strategyOf, hm]
  rfl

structure Session.Sound (s : Session) : Prop where
  cache : s.cache.Sound
  programs : ∀ text n p, ((text, n), p) ∈ s.programs →
    ∃ e, parse text = .ok e ∧ e.check n = .ok () ∧ p.IsFor s.config e

/-- Sessions under a configuration, after any calls. -/
inductive Session.Reachable (c : Config) : Session → Prop
  | start (made : Nat) : Reachable c { config := c, made }
  | compile {s : Session} (h : Reachable c s) (text : String) (n : Int) (origin : Origin) :
      Reachable c (s.compile text n origin).2
  | attempt {s : Session} (h : Reachable c s) (text : String) (n : Int) (origin : Origin) :
      Reachable c (s.attempt text n origin).2
  | einsum {s : Session} (h : Reachable c s) (text : String) (operands : List Operand) :
      Reachable c (s.einsum text operands).2
  | reset {s : Session} (h : Reachable c s) : Reachable c s.reset

section

variable (c : Config) (text : String) (n : Int) {pool : Pool}

theorem build_cases (pool : Pool) :
    (∃ e, parse text = .ok e ∧ e.check n = .ok ()) ∨ ∃ err, pool.build c text n =
      .error err := by
  cases hp : parse text with
  | error r => exact .inr ⟨.report r, by simp only [Pool.build, hp]; rfl⟩
  | ok e =>
    cases hc : e.check n with
    | error r =>
      exact .inr ⟨.report r, by simp only [Pool.build, hp, Except.mapError, ok_bind, hc]; rfl⟩
    | ok => exact .inl ⟨e, rfl, hc⟩

/-- Compiling keeps the pool sound, and gives programs for the text. -/
theorem compile_sound (hs : pool.Sound) : (pool.compile c text n).2.Sound ∧
    ∀ p, (pool.compile c text n).1 = .ok p →
      ∃ e, parse text = .ok e ∧ e.check n = .ok () ∧ p.IsFor c e := by
  rw [Pool.compile]
  rcases build_cases c text n pool with ⟨e, hp, hc⟩ | ⟨err, h⟩
  · obtain ⟨p, pool', hb, hfor, hs'⟩ := build_eq_ok (c := c) hp hc hs
    rw [hb]
    refine ⟨hs', fun q hq => ?_⟩
    cases hk : compileKernels p.kernels with
    | error e => simp [hk, Except.map] at hq
    | ok =>
      simp only [hk, Except.map, Except.ok.injEq] at hq
      exact ⟨e, hp, hc, hq ▸ hfor⟩
  · rw [h]
    exact ⟨hs, fun q hq => by cases hq⟩

end

namespace Session

variable {s : Session}

theorem sound_start (c : Config) (made : Nat) : ({ config := c, made } : Session).Sound :=
  ⟨Cache.sound_empty, fun _ _ _ hp => absurd hp List.not_mem_nil⟩

theorem Sound.compile (h : s.Sound) (text : String) (n : Int) (origin : Origin) :
    (s.compile text n origin).2.Sound ∧ (s.compile text n origin).2.config = s.config := by
  rw [Session.compile]
  split
  next => exact ⟨h, rfl⟩
  next =>
    obtain ⟨hpool, hprog⟩ := compile_sound s.config text n (h.cache.pool s.made)
    generalize Pool.compile ⟨some s.cache, s.made⟩ s.config text n = r at hpool hprog ⊢
    obtain ⟨result, pool⟩ := r
    have hcache : (pool.cache.getD s.cache).Sound := by
      cases hc : pool.cache with
      | none => exact h.cache
      | some cache => exact hpool cache hc
    cases result with
    | error e => exact ⟨⟨hcache, h.programs⟩, rfl⟩
    | ok p =>
      refine ⟨⟨hcache, fun text' n' q hq => ?_⟩, rfl⟩
      rcases List.mem_append.mp hq with hq | hq
      · exact h.programs text' n' q hq
      · cases List.mem_singleton.mp hq
        exact hprog p rfl

theorem Sound.attempt (h : s.Sound) (text : String) (n : Int) (origin : Origin) :
    (s.attempt text n origin).2.Sound ∧ (s.attempt text n origin).2.config = s.config := by
  obtain ⟨hs, hc⟩ := h.compile text n origin
  rw [Session.attempt]
  split
  next he =>
    rw [he] at hs hc
    exact ⟨hs, hc⟩
  next he =>
    rw [he] at hs hc
    exact ⟨⟨hs.cache, hs.programs⟩, hc⟩
  next he =>
    rw [he] at hs hc
    exact ⟨hs, hc⟩

theorem Sound.einsum (h : s.Sound) (text : String) (operands : List Operand) :
    (s.einsum text operands).2.Sound ∧ (s.einsum text operands).2.config = s.config := by
  obtain ⟨hs, hc⟩ := h.compile text operands.length {}
  rw [Session.einsum]
  split
  next he =>
    rw [he] at hs hc
    exact ⟨hs, hc⟩
  next he =>
    rw [he] at hs hc
    exact ⟨hs, hc⟩

theorem Reachable.sound {c : Config} (h : s.Reachable c) : s.Sound ∧ s.config = c := by
  induction h with
  | start made => exact ⟨sound_start c made, rfl⟩
  | compile _ text n origin ih =>
    obtain ⟨hs, hc⟩ := ih.1.compile text n origin
    exact ⟨hs, hc.trans ih.2⟩
  | attempt _ text n origin ih =>
    obtain ⟨hs, hc⟩ := ih.1.attempt text n origin
    exact ⟨hs, hc.trans ih.2⟩
  | einsum _ text operands ih =>
    obtain ⟨hs, hc⟩ := ih.1.einsum text operands
    exact ⟨hs, hc.trans ih.2⟩
  | reset _ ih => exact ⟨sound_start _ _, ih.2⟩

theorem Sound.isFor_of_compile (h : s.Sound) {text : String} {n : Int} {origin : Origin}
    {p : Program} (hp : (s.compile text n origin).1 = .ok p) :
    ∃ e, parse text = .ok e ∧ e.check n = .ok () ∧ p.IsFor s.config e := by
  rw [Session.compile] at hp
  split at hp
  next q hlook =>
    obtain ⟨before, after, hmem, -⟩ := List.lookup_eq_some_iff.mp hlook
    cases hp
    exact h.programs text n _ (by rw [hmem]; simp)
  next =>
    have hprog := (compile_sound s.config text n (h.cache.pool s.made)).2
    generalize Pool.compile ⟨some s.cache, s.made⟩ s.config text n = r at hprog hp
    obtain ⟨result, pool⟩ := r
    cases result with
    | error e => cases hp
    | ok q =>
      cases hp
      exact hprog _ rfl

theorem Sound.compile_of_usable (h : s.Sound)
    (hu : Settings.isUsablePrefix s.config.kernelPrefix = true)
    (ha : s.config.kernelPrefix.toList.all (·.toNat < 0x80) = true) {text : String} {n : Int}
    {e : Expression} (hp : parse text = .ok e) (hc : e.check n = .ok ()) (origin : Origin) :
    ∃ p s', s.compile text n origin = (.ok p, s') ∧ p.IsFor s.config e := by
  rw [Session.compile]
  split
  next p hlook =>
    obtain ⟨before, after, hmem, -⟩ := List.lookup_eq_some_iff.mp hlook
    obtain ⟨e', hp', -, hfor⟩ := h.programs text n p (by rw [hmem]; simp)
    obtain rfl := Except.ok.inj (hp.symm.trans hp')
    exact ⟨p, s, rfl, hfor⟩
  next =>
    obtain ⟨p, pool', hb, hfor, -⟩ := build_eq_ok (c := s.config) hp hc (h.cache.pool s.made)
    have hk : compileKernels p.kernels = .ok () := by
      apply compileKernels_eq_ok
      intro k hk
      obtain ⟨op, hop, rfl⟩ := List.mem_map.mp (mem_of_mem_distinctBy hk)
      obtain ⟨u, hv, hi, hl, hkf⟩ := hfor.kernels hp hc op hop
      exact hkf.compile_eq_ok hv hu hi hl ha
    simp only [Pool.compile, hb, hk, Except.map]
    exact ⟨p, _, rfl, hfor⟩

theorem Sound.compile_eq_ok {settings : Settings} (hn : settings.normalize = .ok s.config)
    (ha : s.config.kernelPrefix.toList.all (·.toNat < 0x80) = true) (h : s.Sound) {text : String}
    {n : Int} {e : Expression} (hp : parse text = .ok e) (hc : e.check n = .ok ())
    (origin : Origin) :
    ∃ p s', s.compile text n origin = (.ok p, s') ∧ p.IsFor s.config e :=
  h.compile_of_usable (isUsablePrefix_of_normalize hn) ha hp hc origin

end Session

theorem call_eq_evaluate {p : Program} {operands : List Operand} {ts : List (Tensor Scalar)}
    (hl : operands.length = p.operandCount) (ht : operands.mapM Operand.tensor = .ok ts) :
    p.call operands = p.evaluate Scalar.arithmetic ts := by
  have ha : p.checkArity operands.length = .ok () := if_pos hl
  rw [Program.call, ha, ht]
  rfl

theorem length_of_mapM {α β : Type} {f : α → Except Error β} {as : List α} {bs : List β}
    (h : as.mapM f = .ok bs) : bs.length = as.length := by
  induction as generalizing bs with
  | nil =>
    cases h
    rfl
  | cons a as ih =>
    rw [List.mapM_cons] at h
    obtain ⟨b, -, h⟩ := bind_eq_ok h
    obtain ⟨cs, hcs, h⟩ := bind_eq_ok h
    cases h
    rw [List.length_cons, List.length_cons, ih hcs]

theorem mapM_tensor_array (ts : List (Tensor Scalar)) :
    (ts.map Operand.array).mapM Operand.tensor = .ok ts := by
  rw [List.mapM_map]
  have h : ts.mapM (fun t => (pure t : Except Error (Tensor Scalar))) = pure (ts.map id) :=
    List.mapM_pure
  rwa [List.map_id] at h

theorem Program.IsFor.call_eq_value {c : Config} {text : String} {e : Expression} {p : Program}
    {operands : List Operand} {ts : List (Tensor Scalar)} (h : p.IsFor c e)
    (hp : parse text = .ok e) (hc : e.check operands.length = .ok ())
    (ht : operands.mapM Operand.tensor = .ok ts) :
    p.call operands = p.path.value Scalar.arithmetic c.specialCases ts := by
  have hsub := h.subscripts hp hc
  have hlen : p.path.subscripts.inputs.length = operands.length := by
    have := (check_eq_ok hc).1
    rw [hsub]
    omega
  rw [call_eq_evaluate hlen.symm ht]
  exact evaluate_eq_value (hsub ▸ validated_of_parse hp hc) h.operations
    (hlen.trans (length_of_mapM ht).symm) p.serial

theorem Session.Reachable.einsum_eq_value {c : Config} {s : Session} (h : s.Reachable c)
    (hu : Settings.isUsablePrefix c.kernelPrefix = true)
    (ha : c.kernelPrefix.toList.all (·.toNat < 0x80) = true) {text : String} {e : Expression}
    (hp : parse text = .ok e) {operands : List Operand} (hc : e.check operands.length = .ok ())
    {ts : List (Tensor Scalar)} (ht : operands.mapM Operand.tensor = .ok ts) {path : Path}
    (hplan : Path.plan e.subscripts c = .ok path) :
    (s.einsum text operands).1 = path.value Scalar.arithmetic c.specialCases ts := by
  obtain ⟨hsound, rfl⟩ := h.sound
  obtain ⟨p, s', hcomp, hfor⟩ := hsound.compile_of_usable hu ha hp hc {}
  obtain rfl := Except.ok.inj (hfor.path.symm.trans hplan)
  rw [Session.einsum, hcomp]
  exact hfor.call_eq_value hp hc ht

theorem Session.Sound.einsum_yields {s : Session} (h : s.Sound) {settings : Settings}
    (hn : settings.normalize = .ok s.config)
    (ha : s.config.kernelPrefix.toList.all (·.toNat < 0x80) = true) {text : String}
    {e : Expression} (hp : parse text = .ok e) {operands : List Operand}
    (hc : e.check operands.length = .ok ()) {ts : List (Tensor Scalar)}
    (ht : operands.mapM Operand.tensor = .ok ts) {d : ElemType} (hd : d.IsExact) {σ : Assignment}
    (hfit : e.subscripts.Fit d σ ts) {path : Path}
    (hplan : Path.plan e.subscripts s.config = .ok path) (hcount : path.Counts d σ) :
    Yields (path.AllFit d σ) (IsEinsum d σ e.subscripts ts) (s.einsum text operands).1 := by
  obtain ⟨p, s', hcomp, hfor⟩ := h.compile_eq_ok hn ha hp hc {}
  have hsub := hfor.subscripts hp hc
  have hlen : operands.length = p.operandCount := by
    have := (check_eq_ok hc).1
    rw [Program.operandCount, Program.subscripts, hsub]
    omega
  obtain rfl := Except.ok.inj (hfor.path.symm.trans hplan)
  rw [Session.einsum, hcomp]
  dsimp only
  rw [call_eq_evaluate hlen ht, ← hsub]
  exact evaluate_yields hd (hsub ▸ validated_of_parse hp hc) (hsub ▸ hfit) hcount p.serial
    hfor.operations

/-- Reading, planning, lowering and running an expression gives the defined result, in any session,
if the arrays on the way there can be allocated. -/
theorem einsum_correct {settings : Settings} {c : Config} (hn : settings.normalize = .ok c)
    (ha : c.kernelPrefix.toList.all (·.toNat < 0x80) = true) {session : Session}
    (hr : session.Reachable c) {text : String} {e : Expression} (hp : parse text = .ok e)
    {operands : List Operand} (hc : e.check operands.length = .ok ()) {ts : List (Tensor Scalar)}
    (ht : operands.mapM Operand.tensor = .ok ts) {d : ElemType} (hd : d.IsExact) {σ : Assignment}
    (hfit : e.subscripts.Fit d σ ts) :
    ∃ path, Path.plan e.subscripts c = .ok path ∧
      (Fits d (e.subscripts.labels.map σ) → path.AllFit d σ ∧ path.Counts d σ) ∧
        (path.Counts d σ →
          Yields (path.AllFit d σ) (IsEinsum d σ e.subscripts ts)
            (session.einsum text operands).1) := by
  obtain ⟨hs, rfl⟩ := hr.sound
  have hv := validated_of_parse hp hc
  obtain ⟨path, hplan, hsub, hreach⟩ :=
    Path.plan_reaches hv (inputs_of_parse hp).1 session.config
  refine ⟨path, hplan, fun hf => ?_, fun hcount => ?_⟩
  · exact hreach.fits (hsub ▸ hv) (hsub ▸ hf)
  · exact hs.einsum_yields hn ha hp hc ht hd hfit hplan hcount

theorem einsum_correct_after_attempt :
    let session := (({} : Session).attempt "ba,bc->ac" 2 {}).2
    let e : Expression := ⟨⟨[['i', 'j'], ['j', 'k']], ['i', 'k']⟩, true, some "ij,jk->ik"⟩
    let d := ElemType.int ⟨true, .w8⟩
    let σ : Assignment := fun _ => 2
    let ts := e.subscripts.inputs.map fun g => Tensor.fill d (g.map σ) (d.element 100)
    ({} : Settings).normalize = .ok {} ∧ session.Reachable {} ∧ parse "ij,jk->ik" = .ok e ∧
      e.check (ts.map Operand.array).length = .ok () ∧ e.subscripts.Fit d σ ts ∧
        ∃ r, (session.einsum "ij,jk->ik" (ts.map Operand.array)).1 = .ok r ∧
          IsEinsum d σ e.subscripts ts r := by
  intro session e d σ ts
  have hn := normalize_default
  have hr : session.Reachable {} := .attempt (.start 0) _ _ _
  have hp : parse "ij,jk->ik" = .ok e := rfl
  have hc : e.check (ts.map Operand.array).length = .ok () := rfl
  have hfit : e.subscripts.Fit d σ ts := e.subscripts.fit_fill (d := d) trivial σ 100
  have ht : (ts.map Operand.array).mapM Operand.tensor = .ok ts := rfl
  have hd : d.IsExact := trivial
  obtain ⟨path, -, hf, hy⟩ := einsum_correct hn (by decide) hr hp hc ht hd hfit
  obtain ⟨hall, hcount⟩ := hf (by decide)
  exact ⟨hn, hr, hp, hc, hfit, (hy hcount).success hall⟩

/-- Empty operands that can be allocated may lead to an empty array that cannot be. -/
theorem exists_einsum_refused :
    let e : Expression :=
      ⟨⟨[['a', 'b', 'z'], ['b', 'c', 'z'], ['d', 'a', 'z'], ['d', 'c']], []⟩, true,
      some "abz,bcz,daz,dc->"⟩
    let d := ElemType.int ⟨true, .w64⟩
    let σ : Assignment := fun l => if l ∈ ['a', 'c'] then 2 ^ 40 else 0
    let ts := e.subscripts.inputs.map fun g => Tensor.fill d (g.map σ) (d.element 0)
    parse "abz,bcz,daz,dc->" = .ok e ∧ e.check (ts.map Operand.array).length = .ok () ∧
      e.subscripts.Fit d σ ts ∧ (∀ t ∈ ts, Fits t.type t.shape) ∧
        ∀ r, (({} : Session).einsum "abz,bcz,daz,dc->" (ts.map Operand.array)).1 ≠ .ok r := by
  intro e d σ ts
  have hp : parse "abz,bcz,daz,dc->" = .ok e := rfl
  have hc : e.check (ts.map Operand.array).length = .ok () := rfl
  have hfit : e.subscripts.Fit d σ ts := e.subscripts.fit_fill (d := d) trivial σ 0
  refine ⟨hp, hc, hfit, by decide, fun r hr => ?_⟩
  obtain ⟨path, hplan, -⟩ :=
    Path.plan_reaches (validated_of_parse hp hc) (List.cons_ne_nil _ _) {}
  have ht : (ts.map Operand.array).mapM Operand.tensor = .ok ts := rfl
  have hy := (Session.sound_start {} 0).einsum_yields normalize_default (by decide) hp hc ht
    (d := d) trivial hfit hplan nofun
  have hout : (Path.plan e.subscripts {}).toOption.map
      (fun p => p.kernelSubscripts.map Subscripts.output) =
      some [['a', 'z', 'c'], ['c', 'd'], []] := by decide
  rw [hplan] at hout
  have hg : path.kernelSubscripts.map Subscripts.output = _ := Option.some.inj hout
  exact absurd ((hy.fits hr).output ['a', 'z', 'c'] (hg ▸ List.mem_cons_self)) (by decide)

end Einsum
