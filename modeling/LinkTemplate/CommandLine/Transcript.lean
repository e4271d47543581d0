import LinkTemplate.Text
/-!
# What a computation writes

A command writes to two outputs while it runs.  A failure stops it and does not
take back what was written before, so a `Transcript` keeps the texts of both outputs
beside the result.  Whether a command that fails has written anything is then a question
about the order of its steps.
-/

namespace LinkTemplate.CommandLine

/-- Lines, each with its line end. -/
def unlines (lines : List Text) : Text := lines.flatMap fun line => line ++ ['\n']

@[simp] theorem unlines_nil : unlines [] = [] := rfl

@[simp] theorem unlines_cons (line : Text) (lines : List Text) :
    unlines (line :: lines) = line ++ '\n' :: unlines lines := by
  simp [unlines]

@[simp] theorem unlines_append (lines lines' : List Text) :
    unlines (lines ++ lines') = unlines lines ++ unlines lines' := List.flatMap_append

/-- What a computation has written when it ends, and its value or the failure that stopped it. -/
structure Transcript (ε α : Type) where
  stdout : Text
  stderr : Text
  result : Except ε α

namespace Transcript

variable {ε α β : Type}

/-- A result that is found without writing anything. -/
def ofResult (result : Except ε α) : Transcript ε α := ⟨[], [], result⟩

/-- Writes a line of results. -/
def print (line : Text) : Transcript ε Unit := ⟨unlines [line], [], .ok ()⟩

/-- Writes a text about the run, as it is. -/
def log (t : Text) : Transcript ε Unit := ⟨[], t, .ok ()⟩

/-- Writes a line about the run. -/
def printError (line : Text) : Transcript ε Unit := log (unlines [line])

/-- One computation after another.  The second takes place only if the first was not stopped, and
writes behind it. -/
def andThen (t : Transcript ε α) (next : α → Transcript ε β) : Transcript ε β :=
  match t.result with
  | .error failure => ⟨t.stdout, t.stderr, .error failure⟩
  | .ok a => ⟨t.stdout ++ (next a).stdout, t.stderr ++ (next a).stderr, (next a).result⟩

instance : Monad (Transcript ε) where
  pure a := ofResult (.ok a)
  bind := andThen

instance : MonadLift (Except ε) (Transcript ε) := ⟨ofResult⟩

/-- Writes lines of results, one after another. -/
def printAll (lines : List Text) : Transcript ε Unit := lines.forM print

/-! ### One step and what follows it -/

@[simp] theorem pure_eq (a : α) : (pure a : Transcript ε α) = ⟨[], [], .ok a⟩ := rfl

@[simp] theorem liftM_error_bind (failure : ε) (next : α → Transcript ε β) :
    (liftM (Except.error failure : Except ε α) >>= next) = ⟨[], [], .error failure⟩ := rfl

@[simp] theorem liftM_ok_bind (a : α) (next : α → Transcript ε β) :
    (liftM (Except.ok a : Except ε α) >>= next) = next a := rfl

@[simp] theorem mk_ok_bind (out err : Text) (a : α) (next : α → Transcript ε β) :
    ((⟨out, err, .ok a⟩ : Transcript ε α) >>= next) =
      ⟨out ++ (next a).stdout, err ++ (next a).stderr, (next a).result⟩ := rfl

@[simp] theorem print_eq (line : Text) : (print line : Transcript ε Unit) =
    ⟨unlines [line], [], .ok ()⟩ := rfl

@[simp] theorem log_eq (t : Text) : (log t : Transcript ε Unit) = ⟨[], t, .ok ()⟩ := rfl

@[simp] theorem printError_eq (line : Text) : (printError line : Transcript ε Unit) =
    ⟨[], unlines [line], .ok ()⟩ := rfl

@[simp] theorem printAll_eq (lines : List Text) :
    (printAll lines : Transcript ε Unit) = ⟨unlines lines, [], .ok ()⟩ := by
  induction lines with
  | nil => rfl
  | cons line lines ih =>
    have hcons : (printAll (line :: lines) : Transcript ε Unit) =
        print line >>= fun _ => printAll lines := rfl
    rw [hcons, ih]
    simp

end Transcript

end LinkTemplate.CommandLine
