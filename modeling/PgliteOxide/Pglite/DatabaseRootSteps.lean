import PgliteOxide.Pglite.DatabaseRoot

/-!
# What the calls of database roots do

A call does what it does in root preparation. A file that is being written has a beginning of the
new bytes when the call fails or the process dies. Of the programs that are run it is known which
directories they leave alone, and that a staged PGDATA is a cluster.
-/

namespace PgliteOxide.Pglite

open Lib Lib.Prog

/-- The root with the template cache, and `pgdata-extension-template`. -/
structure SetupDisk where
  root : RootDisk
  extension : RootDisk

/-- What a write leaves is a beginning of what it writes. -/
def WritesPrefix : RootOp → RootDisk → RootDisk → Prop
  | .write loc data, s, s' => s' = s ∨ ∃ torn, torn <+: data ∧ s' = s.put loc torn
  | _, _, _ => True

/-- `rootEffects`, where a write may be torn. -/
def tornEffects (build : RootBuild) : Effects RootOp RootOp.Answer RootDisk where
  step op s s' ans := rootStep build op s s' ans ∧ WritesPrefix op s s'
  crash op s c := ∃ ans, rootStep build op s c ans ∧ WritesPrefix op s c

/-- What `fs::metadata` may answer. -/
def metadataAnswers : Option (Node Bytes) → Except IoError (Bool × ℕ) → Prop
  | some (.file data), ans => ans = .ok (true, data.length) ∨ ∃ text, ans = .error (.other text)
  | some .dir, ans => (∃ length, ans = .ok (false, length)) ∨ ∃ text, ans = .error (.other text)
  | none, ans => ans = .error .notFound ∨ ∃ text, ans = .error (.other text)

/-- What a call may do and answer. -/
def setupStep (build : RootBuild) : (op : SetupOp) → SetupDisk → SetupDisk → op.Answer → Prop
  | .root op, s, s', ans =>
    (tornEffects build).step op s.root s'.root ans ∧ s'.extension = s.extension
  | .extension op, s, s', ans =>
    (tornEffects build).step op s.extension s'.extension ans ∧ s'.root = s.root
  | .runtimeCache, s, s', _ =>
    s'.root .pgdata = s.root .pgdata ∧ s'.root .runtime = s.root .runtime ∧
      s'.extension = s.extension
  | .metadata loc, s, s', ans => s' = s ∧ metadataAnswers (s.root.node loc) ans
  | .createInstallRoot, s, s', _ => s' = s
  | .installRuntimeFromTar, s, s', _ =>
    (∀ hash, s'.root (.template hash) = s.root (.template hash)) ∧ s'.extension = s.extension
  | .buildStaging staging _ _, s, s', ans =>
    s'.root .pgdata = s.root .pgdata ∧ s'.root .runtime = s.root .runtime ∧
      (∃ f : PgFiles → PgFiles, s'.extension = s.extension.change staging.place f ∧
        ∀ p, ¬ staging.path <+: p →
          f (s.extension staging.place) p = s.extension staging.place p) ∧
      (ans = .ok () → s'.extension.hasMarkers (staging.join Root.builtPgdata) = true)

/-- A process that dies inside a call leaves what the call may leave when it ends or fails. -/
def setupEffects (build : RootBuild) : Effects SetupOp SetupOp.Answer SetupDisk where
  step := setupStep build
  crash op s c := ∃ ans, setupStep build op s c ans

variable {build : RootBuild}

/-! ## Parts -/

lemma sees_root : Sees (tornEffects build) (setupEffects build) SetupOp.root (fun _ ans => ans)
    SetupDisk.root SetupDisk.extension where
  step h := h
  crash h := by
    obtain ⟨ans, hstep, hrest⟩ := h
    exact ⟨⟨ans, hstep⟩, hrest⟩

lemma sees_extension : Sees (tornEffects build) (setupEffects build) SetupOp.extension
    (fun _ ans => ans) SetupDisk.extension SetupDisk.root where
  step h := h
  crash h := by
    obtain ⟨ans, hstep, hrest⟩ := h
    exact ⟨⟨ans, hstep⟩, hrest⟩

lemma does_root : Does (tornEffects build) (setupEffects build) SetupOp.root (fun _ ans => ans)
    SetupDisk.root where
  step {op t s' ans} h := ⟨⟨s', t.extension⟩, ans, rfl, ⟨h, rfl⟩, rfl⟩
  crash {op t c} h := by
    obtain ⟨ans, hstep⟩ := h
    exact ⟨⟨c, t.extension⟩, ⟨ans, hstep, rfl⟩, rfl⟩

lemma does_extension : Does (tornEffects build) (setupEffects build) SetupOp.extension
    (fun _ ans => ans) SetupDisk.extension where
  step {op t s' ans} h := ⟨⟨t.root, s'⟩, ans, rfl, ⟨h, rfl⟩, rfl⟩
  crash {op t c} h := by
    obtain ⟨ans, hstep⟩ := h
    exact ⟨⟨t.root, c⟩, ⟨ans, hstep, rfl⟩, rfl⟩

/-- What is known without torn writes holds with them. -/
lemma returns_torn {ε α : Type} {R : RootDisk → α → Prop} {p : Prog RootOp RootOp.Answer ε α}
    {s : RootDisk} (h : returns (rootEffects build) R p s) : returns (tornEffects build) R p s := by
  induction p generalizing s with
  | ret a => exact h
  | fail e => trivial
  | call op next ih => exact fun s' ans hstep => ih ans (h s' ans hstep.1)

lemma safe_torn {ε α : Type} {I : RootDisk → Prop} {Q : RootDisk → Except ε α → Prop}
    {p : Prog RootOp RootOp.Answer ε α} {s : RootDisk} (h : safe (rootEffects build) I Q p s) :
    safe (tornEffects build) I Q p s := by
  induction p generalizing s with
  | ret a => exact h
  | fail e => exact h
  | call op next ih =>
    obtain ⟨hI, hcrash, hnext⟩ := h
    refine ⟨hI, fun c hc => ?_, fun s' ans hstep => ih ans (hnext s' ans hstep.1)⟩
    obtain ⟨ans, hstep, -⟩ := hc
    exact hcrash c ⟨ans, hstep⟩

/-! ## What leaves the disk as it is -/

section Same

variable {α : Type} {Q : Except RootError α → Prop} {p : RootProg α} {s : SetupDisk}

lemma safe_onRoot (h : safe (rootEffects build) (· = s.root) (fun _ r => Q r) p s.root) :
    safe (setupEffects build) (· = s) (fun _ r => Q r) (onRoot p) s := by
  refine safe_mono (safe_embed sees_root (safe_torn h)) (fun t ht => ?_) fun _ _ _ hQ => hQ
  cases t
  cases ht.1
  cases ht.2
  rfl

lemma safe_onExtensions
    (h : safe (rootEffects build) (· = s.extension) (fun _ r => Q r) p s.extension) :
    safe (setupEffects build) (· = s) (fun _ r => Q r) (onExtensions p) s := by
  refine safe_mono (safe_embed sees_extension (safe_torn h)) (fun t ht => ?_) fun _ _ _ hQ => hQ
  cases t
  cases ht.1
  cases ht.2
  rfl

end Same

/-! ## Torn writes -/

section Torn

variable {α : Type} {B : RootDisk → Prop} {R : RootDisk → α → Prop} {s : RootDisk}

/-- A file that is written may be found empty. -/
lemma exposes_write {shown : RootBuild} {text : String} {loc : Loc} {data : Bytes}
    (h : B (s.put loc [])) :
    exposes (tornEffects build) B (fun _ _ => False) (Root.write shown text loc data) s := by
  intro s' ans hstep
  cases ans with
  | error err => exact .inr trivial
  | ok u =>
    have hwritable : s.Writable loc := hstep.1.1
    refine .inl ⟨s.put loc [], ⟨.error (.other ""), .inr ⟨hwritable, [], rfl⟩, .inr ?_⟩, h⟩
    exact ⟨[], List.nil_prefix, rfl⟩

end Torn

/-! ## Runs -/

section Runs

variable {shown : RootBuild} {α : Type} {s s' : RootDisk} {text : String} {loc : Loc}

lemma runs_createDirAll (h : s.Free loc) :
    Runs (tornEffects build) (Root.createDirAll shown text loc) s (s.makeDirs loc) (.ok ()) := by
  have hstep : (tornEffects build).step (.createDirAll loc) s (s.makeDirs loc) (.ok ()) :=
    ⟨⟨h, rfl⟩, trivial⟩
  exact .call hstep (.ret () _)

lemma runs_write {data : Bytes} (h : s.Writable loc) :
    Runs (tornEffects build) (Root.write shown text loc data) s (s.put loc data) (.ok ()) := by
  have hstep : (tornEffects build).step (.write loc data) s (s.put loc data) (.ok ()) :=
    ⟨⟨h, rfl⟩, .inr ⟨data, List.prefix_refl data, rfl⟩⟩
  exact .call hstep (.ret () _)

lemma runs_removeDirIfExists (h : s.node loc = none) :
    Runs (tornEffects build) (Root.removeDirIfExists shown text loc) s s (.ok ()) := by
  have hstep : (tornEffects build).step (.pathExists loc) s s false :=
    ⟨⟨rfl, by rw [h]; rfl⟩, trivial⟩
  exact .call hstep (.ret () _)

/-- A program that writes no file runs as it does without torn writes. -/
lemma runs_torn {R : α → Prop} {p : RootProg α} {r : Except RootError α}
    (hp : p.keepsTo (fun op => ∀ loc data, op ≠ .write loc data) R)
    (hrun : Runs (rootEffects build) p s s' r) : Runs (tornEffects build) p s s' r := by
  induction hrun with
  | ret a s => exact .ret a s
  | fail e s => exact .fail e s
  | @call op next s₁ s₂ s₃ ans r hstep _ ih =>
    have hprefix : WritesPrefix op s₁ s₂ := by
      cases op with
      | write loc data => exact absurd rfl (hp.1 loc data)
      | _ => trivial
    exact .call ⟨hstep, hprefix⟩ (ih (hp.2 ans))

end Runs

end PgliteOxide.Pglite
