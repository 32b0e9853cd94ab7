namespace CompilePlayground

/-!
# Reports of compiler runs

A run that took place ends with a verdict and the text that the compiler wrote.
A report is rendered as a banner for its verdict, followed by that text.
-/

/-- How a compiler run ended. A failed run has no exit code when a signal ended it. -/
inductive Verdict where
  | succeeded
  | failed (exitCode? : Option Int)
  | timedOut
  deriving Repr, DecidableEq

/-- A verdict with the interleaved output of the compiler. -/
structure Report where
  verdict : Verdict
  output : String
  deriving Repr, DecidableEq

namespace Report

/-- The banner of runs that succeeded. -/
def successBanner : String :=
  "Compilation succeeded.\n\n"

/-- The banner of all other runs. -/
def failureBanner : String :=
  "Compilation failed with the following errors:\n\n"

/-- A run succeeds in one way only. -/
def succeeded (report : Report) : Bool :=
  report.verdict = .succeeded

/-- The banner that a report's text stands under. -/
def banner (report : Report) : String :=
  if report.succeeded then successBanner else failureBanner

/-- A report as a client reads it. -/
def render (report : Report) : String :=
  report.banner ++ report.output

end Report

end CompilePlayground
