import LddExamples.KernelInterface

/-!
# The interrupt demo

`021_interrupt_handler/irq_handler_kernel.c` on a 64-bit kernel: three counters, a
tasklet and a work item. Scheduling marks them pending, once; the kernel runs them at
some later time. The handler in the file is never requested for an interrupt line, and
so it never runs.

A read copies its whole text whatever length it asks for. The file operations have no
owner, so the module can be unloaded while a descriptor is open, and its calls are
still made then. Unloading first removes the attributes and last the device number;
registration, its error paths and the log are left out.
-/

namespace LddExamples.InterruptDemo

open KernelInterface

/-- The three counters, the number of the interrupt line, and for each deferred function
whether it is scheduled and has not run yet. The two marks stand for the kernel's queues; a
counter wraps at 64 bits, as an unsigned long does. -/
structure Device where
  interruptCount : BitVec 64
  taskletCount : BitVec 64
  workQueueCount : BitVec 64
  irqNumber : Int
  taskletPending : Bool
  workPending : Bool

/-- The tasklet is marked. One that is marked already stays so: nothing counts how often it
was asked for before it runs. -/
def taskletSchedule (device : Device) : Device := { device with taskletPending := true }

/-- The work item is marked, with the same effect on one that is marked already. -/
def scheduleWork (device : Device) : Device := { device with workPending := true }

/-- The body of the tasklet counts its execution. When the kernel executes it, and that it
is no longer marked then, is not part of the body. -/
def taskletFunc (device : Device) : Device :=
  { device with taskletCount := device.taskletCount + 1 }

/-- The body of the work item counts its execution. -/
def workFunc (device : Device) : Device :=
  { device with workQueueCount := device.workQueueCount + 1 }

/-- The three counters are set to zero, in one step. What is scheduled stays scheduled. -/
def resetCounts (device : Device) : Device :=
  { device with interruptCount := 0, taskletCount := 0, workQueueCount := 0 }

/-- The text of the `irq_count` attribute: each counter in decimal, on a line of its own. It
is far shorter than the page that it is printed to. -/
def irqCountShow (device : Device) : List UInt8 :=
  textBytes "IRQ Count: " ++ decimalBytes device.interruptCount.toNat ++
    textBytes "\nTasklet Count: " ++ decimalBytes device.taskletCount.toNat ++
    textBytes "\nWork Queue Count: " ++ decimalBytes device.workQueueCount.toNat ++
    textBytes "\n"

/-- The text of the `irq_info` attribute. The number of the line is zero in every run, since
nothing sets it. -/
def irqInfoShow (device : Device) : List UInt8 :=
  if 0 < device.irqNumber then
    textBytes "Registered IRQ: " ++ decimalBytes device.irqNumber.toNat ++
      textBytes "\nIRQ Handler: irq_handler\n"
  else textBytes "No IRQ registered\n"

/-- A write to `trigger_work` schedules the work item, whatever its bytes are, and takes all
of them. -/
def triggerWorkStore (device : Device) (count : Nat) : Device × Int := (scheduleWork device, count)

/-- A write to `trigger_tasklet` schedules the tasklet, whatever its bytes are, and takes
all of them. -/
def triggerTaskletStore (device : Device) (count : Nat) : Device × Int :=
  (taskletSchedule device, count)

/-- A write to `reset_count` resets the counters, whatever its bytes are, and takes all of
them. -/
def resetCountStore (device : Device) (count : Nat) : Device × Int := (resetCounts device, count)

/-- The text that `irq_read` formats. -/
def statistics (device : Device) : List UInt8 :=
  textBytes "Interrupt Statistics:\nIRQ Interrupts: " ++
    decimalBytes device.interruptCount.toNat ++
    textBytes "\nTasklet Executions: " ++ decimalBytes device.taskletCount.toNat ++
    textBytes "\nWork Queue Executions: " ++ decimalBytes device.workQueueCount.toNat ++
    textBytes "\nTotal Events: " ++
    decimalBytes (device.interruptCount + device.taskletCount + device.workQueueCount).toNat ++
    textBytes "\n"

/-- A read formats the whole text, hands it out without looking at the length that it was
asked for or at the position, and fails if the user memory has no room for all of it. -/
def irqRead (device : Device) (room : Nat) : Reply :=
  let msg := statistics device
  let (data, missing) := copyToUser msg room
  if missing ≠ 0 then ⟨-efault, data⟩ else ⟨msg.length, data⟩

/-- The characters `T`, `W` and `R`. -/
def runCommand (device : Device) (command : UInt8) : Device :=
  if command = 84 then taskletSchedule device
  else if command = 87 then scheduleWork device
  else if command = 82 then resetCounts device
  else device

/-- A write looks at its first byte only and returns the length that it was given; a byte
that cannot be fetched is the one failure. A length of zero is no exception: the byte is
fetched all the same. -/
def irqWrite (device : Device) (source : UserSource) (size : Nat) : Device × Int :=
  match copyByteFromUser source with
  | none => (device, -efault)
  | some command => (runCommand device command, size)

/-- The driver as it is loaded. -/
def loaded : Device := ⟨0, 0, 0, 0, false, false⟩

/-- The number of digits of a counter. -/
def digits (counter : BitVec 64) : Nat := (decimalBytes counter.toNat).length

/-- A counter has at most twenty digits. -/
theorem digits_le (counter : BitVec 64) : digits counter ≤ 20 := by
  have bound := counter.isLt
  exact decimal_bytes_length_le counter.toNat 20 (by decide) (by omega)

/-- The length of the text, and that it fits the 256 bytes that it is formatted into. -/
theorem statistics_length (device : Device) :
    (statistics device).length = 99 + digits device.interruptCount + digits device.taskletCount +
        digits device.workQueueCount +
        digits (device.interruptCount + device.taskletCount + device.workQueueCount) ∧
      (statistics device).length < 256 := by
  have interrupts := digits_le device.interruptCount
  have tasklets := digits_le device.taskletCount
  have works := digits_le device.workQueueCount
  have total := digits_le (device.interruptCount + device.taskletCount + device.workQueueCount)
  have heading : (textBytes "Interrupt Statistics:\nIRQ Interrupts: ").length = 38 := by decide
  have second : (textBytes "\nTasklet Executions: ").length = 21 := by decide
  have third : (textBytes "\nWork Queue Executions: ").length = 24 := by decide
  have last : (textBytes "\nTotal Events: ").length = 15 := by decide
  have newline : (textBytes "\n").length = 1 := by decide
  simp only [statistics, List.length_append, heading, second, third, last, newline]
  simp only [digits] at interrupts tasklets works total ⊢
  omega

end LddExamples.InterruptDemo
