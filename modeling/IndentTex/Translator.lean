import IndentTex.Registry.Defaults
import IndentTex.Scan.Document

/-!
# Translators

A translator holds what outlives a single run: the registry, the auxiliary files, and how an
executor is started with them. Every run starts with a fresh state.
-/

namespace IndentTex

/-- A translator whose executor has states of type `σ`. -/
structure Translator (σ : Type) where
  registry : Registry
  files : FileEnv
  executor : Executor σ
  /-- The first state of the executor in a run with the given files. -/
  start : FileEnv → σ

namespace Translator

variable {σ : Type}

/-- The translator with a registry, no files and no executor. -/
def ofRegistry (registry : Registry) : Translator Unit where
  registry := registry
  files := []
  executor := .unavailable
  start _ := ()

/-- The translator with the default definitions. -/
def defaults : Translator Unit := ofRegistry .defaults

/-- The translator with one more definition (`with_command`, `with_environment`). -/
def register (t : Translator σ) (d : Definition) : Except RegistryError (Translator σ) :=
  match Registry.register d t.registry with
  | .ok _ r => .ok { t with registry := r }
  | .error e _ => .error e

/-- What stays fixed in the runs of a translator. -/
def setup (t : Translator σ) : Setup σ := ⟨t.registry, t.executor⟩

/-- Runs a reader on a source. -/
def run (t : Translator σ) (reader : Level σ → Scan σ Text) (source : Text) : Except Error Text :=
  match reader (.outermost t.setup) (.start source (t.start t.files)) with
  | .ok output _ => .ok output
  | .error e _ => .error e

/-- Translates a document with its preamble (`translate`). -/
def translate (t : Translator σ) (source : Text) : Except Error Text := t.run Scan.root source

/-- Translates a sequence of blocks without a preamble (`translate_fragment`). -/
def translateFragment (t : Translator σ) (source : Text) : Except Error Text :=
  t.run Scan.fragment source

/-- A translator in words. -/
def describe (t : Translator σ) : Text :=
  "Translator \x7b registry: ".toList ++ Text.quoteList t.registry.names ++ ", files: ".toList
    ++ Text.quoteList (t.files.map Prod.fst) ++ " \x7d".toList

end Translator

end IndentTex
