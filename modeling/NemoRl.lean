import NemoRl.Python
import NemoRl.Interfaces
import NemoRl.RefLogprobs
import NemoRl.Validate
import NemoRl.SaveState
import NemoRl.Train
import NemoRl.Progress
import NemoRl.Resume
import NemoRl.Schedule
import NemoRl.Penguin
import NemoRl.ChatML
import NemoRl.Job
import NemoRl.Preempt
import NemoRl.Megatron
