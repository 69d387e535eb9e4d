import Einsum.Proofs.Normal
import Einsum.Proofs.Sharing

namespace Einsum

inductive Pool.Reachable : Pool → Prop
  | start (made : Nat) : Reachable { cache := some {}, made }
  | bare (made : Nat) : Reachable { made }
  | compile {pool : Pool} (h : Reachable pool) (c : Config) (text : String) (n : Int) :
      Reachable (pool.compile c text n).2

theorem Pool.sound_bare (made : Nat) : ({ made } : Pool).Sound := by
  intro cache h
  cases h

theorem Pool.Reachable.sound {pool : Pool} (h : pool.Reachable) : pool.Sound := by
  induction h with
  | start made => exact Cache.sound_empty.pool made
  | bare made => exact Pool.sound_bare made
  | compile _ c text n ih => exact (compile_sound c text n ih).1

/-- Programs that differ at most in what they share with others: the identity of kernels, and
whether a kernel was there before. -/
structure Program.Agrees (p q : Program) : Prop where
  path : p.path = q.path
  operations : p.operations.map Operation.plain = q.operations.map Operation.plain
  source : p.source = q.source
  digest : p.digest = q.digest
  call : ∀ operands, p.call operands = q.call operands

theorem Program.Agrees.of_plain {p q : Program} (h : p.plain = q.plain) : p.Agrees q := by
  have hs : p.source = q.source := by rw [← p.source_plain, h, q.source_plain]
  have hpath : p.path = q.path := congrArg (fun r => r.path) h
  have hops : p.operations.map Operation.plain = q.operations.map Operation.plain :=
    congrArg (fun r => r.operations) h
  refine ⟨hpath, hops, hs, ?_, fun operands => ?_⟩
  · rw [Program.digest, Program.digest, hs]
  · rw [← p.call_plain, h, q.call_plain]

def Span.columns (s : Span) : Int × Int := (s.start, s.stop)

structure Report.Agrees (r r' : Report) : Prop where
  fault : r.fault = r'.fault
  text : r.text = r'.text
  describe : r.describe = r'.describe
  columns : r.place.map Span.columns = r'.place.map Span.columns

theorem Report.Agrees.refl (r : Report) : r.Agrees r := ⟨rfl, rfl, rfl, rfl⟩

theorem Report.columns_place {r : Report} {span : Span} (h : r.span = some span) :
    r.place.map Span.columns = some span.columns := by
  rw [Report.place, h]
  cases r.site <;> rfl

inductive Alike : Except Error Program → Except Error Program → Prop
  | ok {p q : Program} (h : p.Agrees q) : Alike (.ok p) (.ok q)
  | report {r r' : Report} (h : r.Agrees r') : Alike (.error (.report r)) (.error (.report r'))
  | error (e : Error) : Alike (.error e) (.error e)

theorem Alike.of_plain {x y : Except Error Program}
    (h : x.map Program.plain = y.map Program.plain) : Alike x y := by
  cases x with
  | error e =>
    cases y with
    | error e' =>
      cases h
      exact .error e
    | ok q => cases h
  | ok p =>
    cases y with
    | error e => cases h
    | ok q => exact .ok (.of_plain (Except.ok.inj h))

theorem Alike.attach {r : Report} (h : r.span.isSome = true) (origin : Origin) (text : String) :
    Alike (.error (origin.attach text (.report r))) (.error (.report r)) := by
  obtain ⟨span, hspan⟩ := Option.isSome_iff_exists.mp h
  have hsite (site : CallSite) : Report.Agrees { r with site := some site } r :=
    ⟨rfl, rfl, rfl, (Report.columns_place (r := { r with site := some site }) hspan).trans
      (Report.columns_place hspan).symm⟩
  obtain ⟨file, line⟩ := origin
  cases file with
  | some file => exact .report (hsite _)
  | none =>
    cases line with
    | some line => exact .report (hsite _)
    | none => exact .report (.refl r)

section

variable {settings : Settings} {c : Config} {text : String} {n : Int}

theorem refused_of_compile (hn : settings.normalize = .ok c) {pool : Pool} (hs : pool.Sound)
    {r : Report} (h : (pool.compile c text n).1 = .error (.report r)) : Refused text n r := by
  rcases refused_or_checked text n with ⟨r', hr⟩ | ⟨e, hp, hc⟩
  · rw [hr.compile] at h
    cases h
    exact hr
  · obtain ⟨p, pool', -, hfor, -, -, hcomp⟩ := hs.compile_of_checked hp hc c
    have hk := hfor.compileKernels_eq hp hc (isUsablePrefix_of_normalize hn)
    rw [hcomp] at h
    split at hk
    next =>
      rw [hk] at h
      cases h
    next =>
      obtain ⟨literal, hl⟩ := hk
      rw [hl] at h
      cases h

theorem Alike.attach_of_compile (hn : settings.normalize = .ok c) {pool : Pool} (hs : pool.Sound)
    {e : Error} (h : (pool.compile c text n).1 = .error e) (origin : Origin) :
    Alike (.error (origin.attach text e)) (.error e) := by
  cases e with
  | report r => exact .attach (refused_of_compile hn hs h).isSome_span origin text
  | _ => exact .error _

end

namespace Session

variable {s : Session} {c : Config}

theorem einsum_state (s : Session) (text : String) (operands : List Operand) :
    (s.einsum text operands).2 = (s.compile text operands.length).2 := by
  rw [einsum]
  split
  next he => rw [he]
  next he => rw [he]

theorem attempt_cases (s : Session) (text : String) (n : Int) (origin : Origin) :
    (∃ p, (s.compile text n origin).1 = .ok p ∧
      s.attempt text n origin = (.ok (.compiled p), (s.compile text n origin).2)) ∨
    (∃ r, (s.compile text n origin).1 = .error (.report r) ∧
      s.attempt text n origin = (.ok (.failed (.ofReport r)), { (s.compile text n origin).2 with
        diagnostics := (s.compile text n origin).2.diagnostics ++ [.ofReport r] })) ∨
    ∃ e, (s.compile text n origin).1 = .error e ∧ (∀ r, e ≠ .report r) ∧
      s.attempt text n origin = (.error e, (s.compile text n origin).2) := by
  rw [attempt]
  generalize s.compile text n origin = x
  obtain ⟨result, s'⟩ := x
  cases result with
  | ok p => exact .inl ⟨p, rfl, rfl⟩
  | error e =>
    by_cases h : ∃ r, e = .report r
    · obtain ⟨r, rfl⟩ := h
      exact .inr (.inl ⟨r, rfl, rfl⟩)
    · have hne : ∀ r, e ≠ .report r := fun r hr => h ⟨r, hr⟩
      refine .inr (.inr ⟨e, rfl, hne, ?_⟩)
      cases e with
      | report r => exact absurd rfl (hne r)
      | _ => rfl

theorem attempt_state (s : Session) (text : String) (n : Int) (origin : Origin) :
    ∃ ds, (s.attempt text n origin).2 =
      { (s.compile text n origin).2 with diagnostics := ds } := by
  rcases s.attempt_cases text n origin with ⟨p, -, h⟩ | ⟨r, -, h⟩ | ⟨e, -, -, h⟩
  all_goals exact ⟨_, congrArg Prod.snd h⟩

/-- What holds at the start, and is kept by compiling and by resetting, holds of all sessions, if it
is not about diagnostics. -/
theorem Reachable.invariant {P : Session → Prop} (start : ∀ made, P { config := c, made })
    (compile : ∀ s text n origin, P s → P (s.compile text n origin).2)
    (reset : ∀ s, P s → P s.reset) (note : ∀ s ds, P s → P { s with diagnostics := ds })
    (h : s.Reachable c) : P s := by
  induction h with
  | start made => exact start made
  | compile _ text n origin ih => exact compile _ text n origin ih
  | @attempt s _ text n origin ih =>
    obtain ⟨ds, hds⟩ := s.attempt_state text n origin
    rw [hds]
    exact note _ ds (compile s text n origin ih)
  | @einsum s _ text operands ih =>
    rw [einsum_state]
    exact compile s text _ {} ih
  | reset _ ih => exact reset _ ih

structure Faithful (s : Session) : Prop extends s.Sound where
  fresh : ∀ text n p, ((text, n), p) ∈ s.programs →
    (Pool.compile {} s.config text n).1.map Program.plain = .ok p.plain

theorem compile_plain_of_lookup (h : s.Faithful) {text : String} {n : Int}
    {p : Program} (hlook : s.programs.lookup (text, n) = some p) :
    (Pool.compile {} s.config text n).1.map Program.plain = .ok p.plain := by
  obtain ⟨before, after, hmem, -⟩ := List.lookup_eq_some_iff.mp hlook
  exact h.fresh text n p (by rw [hmem]; simp)

theorem Faithful.compile_eq (h : s.Faithful) (text : String) (n : Int) (origin : Origin) :
    (s.compile text n origin).1.map Program.plain =
      ((Pool.compile {} s.config text n).1.mapError (origin.attach text)).map Program.plain := by
  rw [Session.compile]
  split
  next p hlook =>
    have hp := compile_plain_of_lookup h hlook
    generalize (Pool.compile {} s.config text n).1 = fresh at hp ⊢
    cases fresh with
    | error e => cases hp
    | ok q => exact hp.symm
  next =>
    have hp := (h.cache.pool s.made).compile_plain (Pool.sound_bare 0) s.config text n
    generalize Pool.compile ⟨some s.cache, s.made⟩ s.config text n = r at hp
    generalize (Pool.compile {} s.config text n).1 = fresh at hp ⊢
    obtain ⟨result, pool⟩ := r
    cases result with
    | error e =>
      cases fresh with
      | error e' =>
        cases hp
        rfl
      | ok q => cases hp
    | ok p =>
      cases fresh with
      | error e => cases hp
      | ok q => exact hp

theorem Faithful.compile (h : s.Faithful) (text : String) (n : Int) (origin : Origin) :
    (s.compile text n origin).2.Faithful := by
  obtain ⟨hs, hc⟩ := h.toSound.compile text n origin
  refine ⟨hs, ?_⟩
  rw [hc]
  rw [Session.compile]
  split
  next => exact h.fresh
  next =>
    have hp := (h.cache.pool s.made).compile_plain (Pool.sound_bare 0) s.config text n
    generalize Pool.compile ⟨some s.cache, s.made⟩ s.config text n = r at hp
    obtain ⟨result, pool⟩ := r
    cases result with
    | error e => exact h.fresh
    | ok p =>
      intro text' n' q hq
      rcases List.mem_append.mp hq with hq | hq
      · exact h.fresh text' n' q hq
      · cases List.mem_singleton.mp hq
        exact hp.symm

theorem Reachable.faithful (h : s.Reachable c) : s.Faithful ∧ s.config = c := by
  refine h.invariant (P := fun s => s.Faithful ∧ s.config = c) (fun made => ?_)
    (fun s text n origin hs => ?_) (fun s hs => ?_) fun s ds hs => ?_
  · exact ⟨⟨sound_start c made, fun _ _ _ hp => absurd hp List.not_mem_nil⟩, rfl⟩
  · exact ⟨hs.1.compile text n origin, (hs.1.toSound.compile text n origin).2.trans hs.2⟩
  · exact ⟨⟨sound_start s.config s.made, fun _ _ _ hp => absurd hp List.not_mem_nil⟩, hs.2⟩
  · exact ⟨⟨⟨hs.1.cache, hs.1.programs⟩, hs.1.fresh⟩, hs.2⟩

theorem attach_default (text : String) (e : Error) : ({} : Origin).attach text e = e := by
  cases e <;> rfl

theorem Faithful.einsum_eq (h : s.Faithful) (text : String) (operands : List Operand) :
    (s.einsum text operands).1 = (Pool.compile {} s.config text operands.length).1 >>=
      fun p => p.call operands := by
  have heq := h.compile_eq text operands.length {}
  rw [Session.einsum]
  generalize s.compile text operands.length {} = x at heq ⊢
  generalize (Pool.compile {} s.config text operands.length).1 = fresh at heq ⊢
  obtain ⟨result, s'⟩ := x
  cases result with
  | error e =>
    cases fresh with
    | error e' =>
      have he : Except.error e = Except.error (({} : Origin).attach text e') := heq
      rw [attach_default] at he
      cases he
      rfl
    | ok q => cases heq
  | ok p =>
    cases fresh with
    | error e => cases heq
    | ok q => exact (Program.Agrees.of_plain (Except.ok.inj heq)).call operands

inductive Tells : Except Error Outcome → Except Error Program → Prop
  | compiled {p q : Program} (h : p.Agrees q) : Tells (.ok (.compiled p)) (.ok q)
  | failed {r r' : Report} (h : r.Agrees r') : Tells (.ok (.failed (.ofReport r)))
      (.error (.report r'))
  | error (e : Error) : Tells (.error e) (.error e)

theorem tells_of_alike {text : String} {n : Int} {origin : Origin} {fresh : Except Error Program}
    (h : Alike (s.compile text n origin).1 fresh) : Tells (s.attempt text n origin).1 fresh := by
  rcases s.attempt_cases text n origin with ⟨p, hp, ha⟩ | ⟨r, hr, ha⟩ | ⟨e, he, hne, ha⟩
  · rw [hp] at h
    rw [ha]
    cases h with
    | ok h => exact .compiled h
  · rw [hr] at h
    rw [ha]
    cases h with
    | report h => exact .failed h
    | error => exact .failed (.refl r)
  · rw [he] at h
    rw [ha]
    cases h with
    | report h => exact absurd rfl (hne _)
    | error => exact .error e

theorem Faithful.compile_alike {settings : Settings} (hn : settings.normalize = .ok s.config)
    (h : s.Faithful) (text : String) (n : Int) (origin : Origin) :
    Alike (s.compile text n origin).1 (Pool.compile {} s.config text n).1 := by
  have heq := h.compile_eq text n origin
  have hattach (e : Error) (he : (Pool.compile {} s.config text n).1 = .error e) :=
    Alike.attach_of_compile hn (Pool.sound_bare 0) he origin
  generalize (Pool.compile {} s.config text n).1 = fresh at heq hattach ⊢
  cases fresh with
  | ok q => exact .of_plain heq
  | error e =>
    generalize (s.compile text n origin).1 = result at heq ⊢
    cases result with
    | error e' =>
      cases heq
      exact hattach e rfl
    | ok p => cases heq

end Session

/-- What was compiled before cannot be told from what compiling comes to: neither in a session, nor
where one cache is used under several configurations. -/
theorem compile_independent_of_history {settings : Settings} {c : Config}
    (hn : settings.normalize = .ok c) :
    (∀ s : Session, s.Reachable c → ∀ text,
      (∀ n origin, Alike (s.compile text n origin).1 (Pool.compile {} c text n).1 ∧
        Session.Tells (s.attempt text n origin).1 (Pool.compile {} c text n).1) ∧
      ∀ operands, (s.einsum text operands).1 =
        (Pool.compile {} c text operands.length).1 >>= fun p => p.call operands) ∧
    ∀ pool : Pool, pool.Reachable →
      ∀ c text n, Alike (pool.compile c text n).1 (Pool.compile {} c text n).1 := by
  constructor
  · intro s hs text
    obtain ⟨hf, rfl⟩ := hs.faithful
    refine ⟨fun n origin => ?_, hf.einsum_eq text⟩
    have halike := hf.compile_alike hn text n origin
    exact ⟨halike, Session.tells_of_alike halike⟩
  · intro pool hp c text n
    exact .of_plain (hp.sound.compile_plain (Pool.sound_bare 0) c text n)

theorem compile_independent_of_history_of_default :
    let s := (({} : Session).attempt "ba,bc->ac" 2 {}).2
    let pool := (Pool.compile { cache := some {} } { specialCases := false } "ba,bc->ac" 2).2
    ({} : Settings).normalize = .ok {} ∧ s.Reachable {} ∧ pool.Reachable ∧
      Alike (s.compile "ij,jk->ik" 2 { line := some 3 }).1 (Pool.compile {} {} "ij,jk->ik" 2).1 ∧
        Alike (pool.compile {} "ij,jk->ik" 2).1 (Pool.compile {} {} "ij,jk->ik" 2).1 := by
  intro s pool
  have hn := normalize_default
  have hs : s.Reachable {} := .attempt (.start 0) _ _ _
  have hp : pool.Reachable := .compile (.start 0) _ _ _
  obtain ⟨h₁, h₂⟩ := compile_independent_of_history hn
  exact ⟨hn, hs, hp, ((h₁ s hs _).1 2 _).1, h₂ pool hp {} _ 2⟩

end Einsum
