import Einsum.Proofs.History
import Einsum.Proofs.Ledger

namespace Einsum

inductive Call where
  | compile (text : String) (n : Int) (origin : Origin)
  | attempt (text : String) (n : Int) (origin : Origin)
  | einsum (text : String) (operands : List Operand)
  | reset

def Call.key? : Call → Option (String × Int)
  | compile text n _ | attempt text n _ => some (text, n)
  | einsum text operands => some (text, operands.length)
  | reset => none

def keysAfter (c : Config) (keys : List (String × Int)) (call : Call) : List (String × Int) :=
  call.key?.elim [] fun key =>
    if key ∈ keys ∨ (Pool.compile {} c key.1 key.2).1.isOk = false then keys else keys ++ [key]

def compiledKeys (c : Config) (calls : List Call) : List (String × Int) :=
  calls.foldl (keysAfter c) []

namespace Session

def after (s : Session) : Call → Session
  | .compile text n origin => (s.compile text n origin).2
  | .attempt text n origin => (s.attempt text n origin).2
  | .einsum text operands => (s.einsum text operands).2
  | .reset => s.reset

def run (s : Session) (calls : List Call) : Session := calls.foldl after s

def lowers (s : Session) (key : String × Int) : List Operation :=
  if (s.programs.lookup key).isSome then []
  else (Pool.build ⟨some s.cache, s.made⟩ s.config key.1 key.2).toOption.elim []
    fun r => r.1.operations

def lowered : Session → List Operation → List Call → List Operation
  | _, ops, [] => ops
  | s, ops, call :: calls =>
    lowered (s.after call) (call.key?.elim [] fun key => ops ++ s.lowers key) calls

/-- What compiling comes to, and the session after it. A text that is refused leaves no trace. One
that is accepted is lowered, and kept if its kernels can be found under their names. -/
inductive Compiles (s : Session) (ops : List Operation) (text : String) (n : Int) :
    Except Error Program → Session → Prop
  | known {p : Program} (kept : s.programs.lookup (text, n) = some p) :
      Compiles s ops text n (.ok p) s
  | refused {r : Report} (new : s.programs.lookup (text, n) = none) (refused : Refused text n r) :
      Compiles s ops text n (.error (.report r)) s
  | made {p : Program} {cache : Cache} {made : Nat} (new : s.programs.lookup (text, n) = none)
      (build : Pool.build ⟨some s.cache, s.made⟩ s.config text n =
        .ok (p, ⟨some cache, made⟩))
      (ledger : Ledger s.config (ops ++ p.operations) cache made)
      (normal : Text.isNormal s.config.kernelPrefix.toList = true)
      (fresh : (Pool.compile {} s.config text n).1.isOk = true) :
      Compiles s ops text n (.ok p)
        { s with cache, made, programs := s.programs ++ [((text, n), p)] }
  | lost {p : Program} {cache : Cache} {made : Nat} {literal : String}
      (new : s.programs.lookup (text, n) = none)
      (build : Pool.build ⟨some s.cache, s.made⟩ s.config text n =
        .ok (p, ⟨some cache, made⟩))
      (ledger : Ledger s.config (ops ++ p.operations) cache made)
      (normal : Text.isNormal s.config.kernelPrefix.toList = false)
      (fresh : (Pool.compile {} s.config text n).1.isOk = false) :
      Compiles s ops text n (.error (.missingKey literal)) { s with cache, made }

end Session

section

variable {settings : Settings} {c : Config} {text : String} {n : Int}

theorem isOk_compile_of_checked (hn : settings.normalize = .ok c) {e : Expression}
    (hp : parse text = .ok e) (hc : e.check n = .ok ()) :
    (Pool.compile {} c text n).1.isOk = Text.isNormal c.kernelPrefix.toList := by
  obtain ⟨p, pool', -, hfor, -, -, hcomp⟩ := (Pool.sound_bare 0).compile_of_checked hp hc c
  have hk := hfor.compileKernels_eq hp hc (isUsablePrefix_of_normalize hn)
  rw [hcomp]
  cases hnormal : Text.isNormal c.kernelPrefix.toList with
  | true =>
    rw [hnormal, if_pos rfl] at hk
    rw [hk]
    rfl
  | false =>
    rw [hnormal, if_neg Bool.false_ne_true] at hk
    obtain ⟨literal, hl⟩ := hk
    rw [hl]
    rfl

theorem Session.compiles {s : Session} (hn : settings.normalize = .ok s.config) (hs : s.Sound)
    {ops : List Operation} (h : Ledger s.config ops s.cache s.made) (text : String) (n : Int)
    (origin : Origin) :
    ∃ result s', s.compile text n origin = (result.mapError (origin.attach text), s') ∧
      s.Compiles ops text n result s' := by
  rw [Session.compile]
  cases hlook : s.programs.lookup (text, n) with
  | some p => exact ⟨.ok p, s, rfl, .known hlook⟩
  | none =>
    rcases refused_or_checked text n with ⟨r, hr⟩ | ⟨e, hp, hc⟩
    · refine ⟨.error (.report r), s, ?_, .refused hlook hr⟩
      rw [hr.compile]
      rfl
    · obtain ⟨p, cache, made, hb, hledger⟩ := h.build hp hc
      obtain ⟨p', pool', hb', hfor, -, -, hcomp⟩ :=
        (hs.cache.pool s.made).compile_of_checked hp hc s.config
      cases hb.symm.trans hb'
      have hk := hfor.compileKernels_eq hp hc (isUsablePrefix_of_normalize hn)
      have hfresh := isOk_compile_of_checked hn hp hc
      rw [hcomp]
      cases hnormal : Text.isNormal s.config.kernelPrefix.toList with
      | true =>
        rw [hnormal] at hfresh hk
        rw [if_pos rfl] at hk
        refine ⟨.ok p, _, ?_, .made hlook hb hledger hnormal hfresh⟩
        rw [hk]
        rfl
      | false =>
        rw [hnormal] at hfresh hk
        rw [if_neg Bool.false_ne_true] at hk
        obtain ⟨literal, hl⟩ := hk
        refine ⟨.error (.missingKey literal), _, ?_, .lost hlook hb hledger hnormal hfresh⟩
        rw [hl]
        rfl

end

namespace Session

/-- A call that fails with a report leaves all as it was, and only an attempt takes a note of it. -/
structure Atomic (s : Session) : Prop where
  compile : ∀ text n origin r, (s.compile text n origin).1 = .error (.report r) →
    (s.compile text n origin).2 = s
  attempt : ∀ text n origin d, (s.attempt text n origin).1 = .ok (.failed d) →
    (s.attempt text n origin).2 = { s with diagnostics := s.diagnostics ++ [d] }
  einsum : ∀ text operands r, (s.compile text operands.length).1 = .error (.report r) →
    s.einsum text operands = (.error (.report r), s)
  compile_silent : ∀ text n origin, (s.compile text n origin).2.diagnostics = s.diagnostics
  attempt_silent : ∀ text n origin, (∀ d, (s.attempt text n origin).1 ≠ .ok (.failed d)) →
    (s.attempt text n origin).2.diagnostics = s.diagnostics
  einsum_silent : ∀ text operands, (s.einsum text operands).2.diagnostics = s.diagnostics

structure Balanced (c : Config) (keys : List (String × Int)) (ops : List Operation) (s : Session) :
    Prop where
  config : s.config = c
  sound : s.Sound
  ledger : Ledger c ops s.cache s.made
  keys : s.programs.map Prod.fst = keys
  normal : Text.isNormal c.kernelPrefix.toList = true →
    ops = s.programs.flatMap fun e => e.2.operations
  unkept : Text.isNormal c.kernelPrefix.toList = false → s.programs = []

theorem compile_diagnostics (s : Session) (text : String) (n : Int) (origin : Origin) :
    (s.compile text n origin).2.diagnostics = s.diagnostics := by
  rw [Session.compile]
  split
  · rfl
  · generalize Pool.compile ⟨some s.cache, s.made⟩ s.config text n = r
    obtain ⟨result, pool⟩ := r
    cases result <;> rfl

variable {settings : Settings} {c : Config} {keys : List (String × Int)} {ops : List Operation}
  {s : Session}

theorem Balanced.start (c : Config) (made : Nat) (ds : List Diagnostic) :
    Balanced c [] [] { config := c, diagnostics := ds, made } where
  config := rfl
  sound := ⟨Cache.sound_empty, fun _ _ _ hp => absurd hp List.not_mem_nil⟩
  ledger := .empty c made
  keys := rfl
  normal _ := rfl
  unkept _ := rfl

theorem Balanced.note (h : Balanced c keys ops s) (ds : List Diagnostic) :
    Balanced c keys ops { s with diagnostics := ds } :=
  ⟨h.config, ⟨h.sound.cache, h.sound.programs⟩, h.ledger, h.keys, h.normal, h.unkept⟩

theorem isSome_lookup_iff {key : String × Int} :
    (s.programs.lookup key).isSome = true ↔ key ∈ s.programs.map Prod.fst := by
  rw [List.lookup_isSome_iff, List.mem_map]
  exact exists_congr fun e => and_congr_right fun _ => by rw [beq_iff_eq, eq_comm]

theorem lowers_of_isSome {key : String × Int} (h : (s.programs.lookup key).isSome = true) :
    s.lowers key = [] := if_pos h

theorem lowers_of_build {text : String} {n : Int} {p : Program} {pool : Pool}
    (h : s.programs.lookup (text, n) = none)
    (hb : Pool.build ⟨some s.cache, s.made⟩ s.config text n = .ok (p, pool)) :
    s.lowers (text, n) = p.operations := by
  rw [lowers, h, hb]
  rfl

theorem Balanced.compile (hn : settings.normalize = .ok c) (h : Balanced c keys ops s)
    (text : String) (n : Int) (origin : Origin) :
    Balanced c (if (text, n) ∈ keys ∨ (Pool.compile {} c text n).1.isOk = false then keys
      else keys ++ [(text, n)]) (ops ++ s.lowers (text, n)) (s.compile text n origin).2 := by
  obtain ⟨rfl, hs, hledger, rfl, hnormal, hunkept⟩ := h
  have hsound := (hs.compile text n origin).1
  obtain ⟨result, s', he, hcases⟩ := compiles hn hs hledger text n origin
  rw [he] at hsound ⊢
  cases hcases with
  | known kept =>
    have hsome : (s.programs.lookup (text, n)).isSome = true := by rw [kept]; rfl
    rw [if_pos (.inl (isSome_lookup_iff.mp hsome)), lowers_of_isSome hsome, List.append_nil]
    exact ⟨rfl, hs, hledger, rfl, hnormal, hunkept⟩
  | refused new refused =>
    have hlowers : s.lowers (text, n) = [] := by
      rw [lowers, new, refused.build]
      rfl
    rw [refused.compile, if_pos (.inr rfl), hlowers, List.append_nil]
    exact ⟨rfl, hs, hledger, rfl, hnormal, hunkept⟩
  | made new build ledger normal fresh =>
    have hnew : (text, n) ∉ s.programs.map Prod.fst := by
      rw [← isSome_lookup_iff, new]
      exact Bool.false_ne_true
    rw [if_neg (not_or.mpr ⟨hnew, by simp [fresh]⟩), lowers_of_build new build]
    refine ⟨rfl, hsound, ledger, List.map_append, fun hn => ?_, fun hn => ?_⟩
    · rw [List.flatMap_append, ← hnormal hn, List.flatMap_singleton]
    · rw [normal] at hn
      cases hn
  | lost new build ledger normal fresh =>
    rw [if_pos (.inr fresh), lowers_of_build new build]
    refine ⟨rfl, hsound, ledger, rfl, fun hn => ?_, hunkept⟩
    rw [normal] at hn
    cases hn

theorem Balanced.after (hn : settings.normalize = .ok c) (h : Balanced c keys ops s) (call : Call) :
    Balanced c (keysAfter c keys call) (call.key?.elim [] fun key => ops ++ s.lowers key)
      (s.after call) := by
  cases call with
  | compile text n origin => exact h.compile hn text n origin
  | attempt text n origin =>
    obtain ⟨ds, hds⟩ := s.attempt_state text n origin
    rw [Session.after, hds]
    exact (h.compile hn text n origin).note ds
  | einsum text operands =>
    rw [Session.after, einsum_state]
    exact h.compile hn text operands.length {}
  | reset =>
    obtain ⟨rfl, -⟩ := h
    exact .start s.config s.made []

theorem Balanced.run (hn : settings.normalize = .ok c) (h : Balanced c keys ops s)
    (calls : List Call) :
    Balanced c (calls.foldl (keysAfter c) keys) (s.lowered ops calls) (s.run calls) := by
  induction calls generalizing s keys ops with
  | nil => exact h
  | cons call calls ih => exact ih (h.after hn call)

theorem Balanced.atomic (hn : settings.normalize = .ok c) (h : Balanced c keys ops s) :
    s.Atomic := by
  obtain ⟨rfl, hs, hledger, -⟩ := h
  have hstate (text : String) (n : Int) (origin : Origin) (r : Report)
      (hr : (s.compile text n origin).1 = .error (.report r)) : (s.compile text n origin).2 =
        s := by
    obtain ⟨result, s', he, hcases⟩ := compiles hn hs hledger text n origin
    rw [he] at hr ⊢
    cases hcases with
    | known | refused => rfl
    | made => cases hr
    | lost => cases hr
  refine ⟨hstate, fun text n origin d hd => ?_, fun text operands r hr => ?_,
    s.compile_diagnostics, fun text n origin hd => ?_, fun text operands => ?_⟩
  · rcases s.attempt_cases text n origin with ⟨p, -, ha⟩ | ⟨r, hr, ha⟩ | ⟨e, -, -, ha⟩
    · rw [ha] at hd
      cases hd
    · rw [ha, hstate text n origin r hr] at hd ⊢
      cases hd
      rfl
    · rw [ha] at hd
      cases hd
  · have hx := hstate text operands.length {} r hr
    rw [Session.einsum]
    generalize s.compile text operands.length {} = x at hr hx ⊢
    obtain ⟨result, s'⟩ := x
    cases hr
    cases hx
    rfl
  · rcases s.attempt_cases text n origin with ⟨p, -, ha⟩ | ⟨r, -, ha⟩ | ⟨e, -, -, ha⟩
    · rw [ha, compile_diagnostics]
    · exact absurd (congrArg Prod.fst ha) (hd _)
    · rw [ha, compile_diagnostics]
  · rw [einsum_state, compile_diagnostics]

end Session

/-- Whatever calls a session has seen, a failure leaves no trace but the diagnostic of an attempt,
and the cache accounts for the operations lowered since the last reset. These are the operations of
the expressions that were kept, if kernels can be found under their names; otherwise no expression
is kept. -/
theorem run_accounts {settings : Settings} {c : Config} (hn : settings.normalize = .ok c)
    (made : Nat) (calls : List Call) :
    let start : Session := { config := c, made }
    let s := start.run calls
    let ops := start.lowered [] calls
    s.Atomic ∧ s.cache.entries.length = s.cache.misses ∧
      s.cache.hits + s.cache.misses = ops.countP (Operation.isCached c) ∧
      s.programs.map Prod.fst = compiledKeys c calls ∧
      (if Text.isNormal c.kernelPrefix.toList then ops = s.programs.flatMap fun e => e.2.operations
        else s.programs = []) ∧
      Marked c ops ∧
      ∀ op ∈ ops, ∀ op' ∈ ops, op.isCached c = true → op'.isCached c = true →
        (op.kernel.serial = op'.kernel.serial ↔ op.SamePattern op') ∧
          (op.SamePattern op' → op.kernel = op'.kernel) := by
  intro start s ops
  have h : s.Balanced c (compiledKeys c calls) ops :=
    (Session.Balanced.start c made []).run hn calls
  refine ⟨h.atomic hn, h.ledger.entries, h.ledger.requests, h.keys, ?_, h.ledger.marked, ?_⟩
  · split
    next hnormal => exact h.normal hnormal
    next hnormal => exact h.unkept (Bool.eq_false_of_not_eq_true hnormal)
  · intro op hop op' hop' hc hc'
    exact h.ledger.serial_eq_iff hop hop' hc hc'

theorem run_accounts_of_reset :
    let calls : List Call :=
      [.compile "ij,jk->ik" 2 {}, .reset, .attempt "ij->ii" 1 {}, .einsum "ab,bc->ac" [],
      .compile "ij,jk,kl->il" 3 { line := some 3 }, .compile "ab,bc->ac" 2 {}]
    let s := ({} : Session).run calls
    let ops := ({} : Session).lowered [] calls
    ({} : Settings).normalize = .ok {} ∧ s.Atomic ∧ s.cache.entries.length = s.cache.misses ∧
      s.cache.hits + s.cache.misses = ops.countP (Operation.isCached {}) ∧
      ops = s.programs.flatMap (fun e => e.2.operations) ∧ Marked {} ops := by
  intro calls s ops
  obtain ⟨ha, he, hr, -, ho, hm, -⟩ := run_accounts normalize_default 0 calls
  have hnormal : Text.isNormal (Config.kernelPrefix {}).toList = true := by decide
  rw [if_pos hnormal] at ho
  exact ⟨normalize_default, ha, he, hr, ho, hm⟩

/-- A ligature is a letter, but not its own normal form: an operation is lowered and counted, and
yet no expression is kept. -/
theorem exists_uncounted :
    let c : Config := { kernelPrefix := "ﬁ" }
    let calls : List Call := [.compile "ij,jk->ik" 2 {}]
    let s := ({ config := c } : Session).run calls
    (∃ settings : Settings, settings.normalize = .ok c) ∧ compiledKeys c calls = [] ∧
      s.programs = [] ∧ s.cache.hits + s.cache.misses = 1 := by
  intro c calls s
  have hu : Settings.isUsablePrefix "ﬁ" = true := by decide +kernel
  have hn : ({ strategy := .null, kernelPrefix := .text "ﬁ" } : Settings).normalize = .ok c := by
    simp only [Settings.normalize, Settings.strategyOf, Json.display, hu]
    rfl
  have hb := (Session.Balanced.start c 0 []).run hn calls
  have hp := hb.unkept (by decide +kernel)
  refine ⟨⟨_, hn⟩, ?_, hp, ?_⟩
  · rw [compiledKeys, ← hb.keys, hp]
    rfl
  · rw [hb.ledger.requests]
    decide +kernel

end Einsum
