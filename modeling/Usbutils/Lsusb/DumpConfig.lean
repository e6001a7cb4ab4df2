import Usbutils.Lsusb.Decoders

/-! `dump_config` and the functions it calls for interfaces, alternate settings and
endpoints: the standard descriptors, then the extra bytes, then what they contain. -/
namespace Usbutils
open ByteProg

section Endpoint

variable (env : Env) (interface : InterfaceDescriptor) (endpoint : EndpointDescriptor)

def endpointHeader : Dump Unit := do
  let attributes := endpoint.bmAttributes
  let wmax := endpoint.wMaxPacketSize
  print "      Endpoint Descriptor:\n" []
  print "        bLength             %5u\n" [.num endpoint.bLength]
  print "        bDescriptorType     %5u\n" [.num endpoint.bDescriptorType]
  print "        bEndpointAddress     0x%02x  EP %u %s\n" (endpointArgs endpoint.bEndpointAddress)
  print "        bmAttributes        %5u\n" [.num attributes]
  print "          Transfer Type            %s\n" [.str (← lookup
    [some "Control", some "Isochronous", some "Bulk", some "Interrupt"] (attributes &&& 3))]
  print "          Synch Type               %s\n" [.str (← lookup
    [some "None", some "Asynchronous", some "Adaptive", some "Synchronous"]
    (attributes >>> 2 &&& 3))]
  print "          Usage Type               %s\n" [.str (← lookup
    [some "Data", some "Feedback", some "Implicit feedback Data", some "(reserved)"]
    (attributes >>> 4 &&& 3))]
  print "        wMaxPacketSize     0x%04x  %s %d bytes\n" [.num wmax, .str (← lookup
    [some "1x", some "2x", some "3x", some "(??)"] (wmax >>> 11 &&& 3)), .num (wmax &&& 0x7ff)]
  print "        bInterval           %5u\n" [.num endpoint.bInterval]
  -- only for audio endpoints
  Prog.when (endpoint.bLength = 9) do
    print "        bRefresh            %5u\n" [.num endpoint.bRefresh]
    print "        bSynchAddress       %5u\n" [.num endpoint.bSynchAddress]

def dumpEndpoint : Walk Unit := do
  display (endpointHeader endpoint)
  walkExtra "        ** Bad endpoint-extra bLength %u (%u left)\n"
    (endpointDecoder env interface endpoint) endpoint.extra

end Endpoint

section Altsetting

variable (env : Env) (interface : InterfaceDescriptor)

def altsettingHeader : Dump Unit := do
  let cls := interface.bInterfaceClass
  let subcls := interface.bInterfaceSubClass
  let proto := interface.bInterfaceProtocol
  print "    Interface Descriptor:\n" []
  print "      bLength             %5u\n" [.num interface.bLength]
  print "      bDescriptorType     %5u\n" [.num interface.bDescriptorType]
  print "      bInterfaceNumber    %5u\n" [.num interface.bInterfaceNumber]
  print "      bAlternateSetting   %5u\n" [.num interface.bAlternateSetting]
  print "      bNumEndpoints       %5u\n" [.num interface.bNumEndpoints]
  print "      bInterfaceClass     %5u %s\n" [.num cls, text (env.getClassString cls)]
  print "      bInterfaceSubClass  %5u %s\n" [.num subcls, text (env.getSubclassString cls subcls)]
  print "      bInterfaceProtocol  %5u %s\n"
    [.num proto, text (env.getProtocolString cls subcls proto)]
  print "      iInterface          %5u %s\n"
    [.num interface.iInterface, .str (env.getDevString interface.iInterface)]

def dumpAltsetting : Walk Unit := do
  display (altsettingHeader env interface)
  walkExtra "      ** Bad interface-extra bLength %u (%u left)\n"
    (altsettingDecoder env interface) interface.extra
  Prog.forEach (dumpEndpoint env interface) interface.endpoint

end Altsetting

def dumpInterface (env : Env) (interface : Interface) : Walk Unit :=
  Prog.forEach (dumpAltsetting env) interface.altsetting

section Config

variable (env : Env) (config : ConfigDescriptor) (speed : Nat)

def configHeader : Dump Unit := do
  let attributes := config.bmAttributes
  print "  Configuration Descriptor:\n" []
  print "    bLength             %5u\n" [.num config.bLength]
  print "    bDescriptorType     %5u\n" [.num config.bDescriptorType]
  print "    wTotalLength       0x%04x\n" [.num config.wTotalLength]
  print "    bNumInterfaces      %5u\n" [.num config.bNumInterfaces]
  print "    bConfigurationValue %5u\n" [.num config.bConfigurationValue]
  print "    iConfiguration      %5u %s\n"
    [.num config.iConfiguration, .str (env.getDevString config.iConfiguration)]
  print "    bmAttributes         0x%02x\n" [.num attributes]
  Prog.when (attributes &&& 0x80 = 0) do print "      (Missing must-be-set bit!)\n" []
  (if attributes &&& 0x40 ≠ 0 then print "      Self Powered\n" []
  else print "      (Bus Powered)\n" [])
  bitLines attributes [(0x20, "      Remote Wakeup\n"), (0x10, "      Battery Powered\n")]
  print "    MaxPower            %5umA\n" [.num (config.maxPower * if speed ≥ 0x0300 then 8 else 2)]

def dumpConfig : Walk Unit := do
  display (configHeader env config speed)
  walkExtra "    ** Bad config-extra bLength %u (%d left)\n" (configDecoder env) config.extra
  Prog.forEach (dumpInterface env) config.interface

end Config

def altsettingDescriptors (m : Memory) (interface : InterfaceDescriptor) : List Nat :=
  descriptors m interface.extra ++
    interface.endpoint.flatMap fun endpoint => descriptors m endpoint.extra

def configDescriptors (m : Memory) (config : ConfigDescriptor) : List Nat :=
  descriptors m config.extra ++
    config.interface.flatMap fun interface =>
      interface.altsetting.flatMap (altsettingDescriptors m)

variable {env : Env} {m : Memory} {interface : InterfaceDescriptor} {endpoint : EndpointDescriptor}
  {config : ConfigDescriptor} {speed : Nat}

@[simp] theorem result_endpointHeader : (endpointHeader endpoint).result m = .ok () := by
  simp [endpointHeader]

@[simp] theorem result_altsettingHeader : (altsettingHeader env interface).result m = .ok () := rfl

@[simp] theorem result_configHeader : (configHeader env config speed).result m = .ok () := by
  simp [configHeader]

theorem result_dumpEndpoint : (dumpEndpoint env interface endpoint).result m = .ok () := by
  simp [dumpEndpoint, result_walkExtra endpointDecoder_returns]

theorem acts_dumpEndpoint :
    (dumpEndpoint env interface endpoint).acts m =
      ((endpointHeader endpoint).acts m).map .shown ++
        (walkExtra "        ** Bad endpoint-extra bLength %u (%u left)\n"
          (endpointDecoder env interface endpoint) endpoint.extra).acts m := by
  rw [dumpEndpoint, acts_display_bind result_endpointHeader]

theorem result_dumpAltsetting : (dumpAltsetting env interface).result m = .ok () := by
  simp [dumpAltsetting, result_walkExtra altsettingDecoder_returns, Prog.result_forEach,
    result_dumpEndpoint]

theorem acts_dumpAltsetting :
    (dumpAltsetting env interface).acts m =
      ((altsettingHeader env interface).acts m).map .shown ++
        ((walkExtra "      ** Bad interface-extra bLength %u (%u left)\n"
          (altsettingDecoder env interface) interface.extra).acts m ++
        interface.endpoint.flatMap fun endpoint => (dumpEndpoint env interface endpoint).acts m) := by
  rw [dumpAltsetting, acts_display_bind result_altsettingHeader,
    Prog.acts_bind_ok (result_walkExtra altsettingDecoder_returns),
    Prog.acts_forEach _ fun _ => result_dumpEndpoint]

theorem result_dumpInterface (interface : Interface) :
    (dumpInterface env interface).result m = .ok () :=
  Prog.result_forEach _ fun _ => result_dumpAltsetting

theorem acts_dumpInterface (interface : Interface) :
    (dumpInterface env interface).acts m =
      interface.altsetting.flatMap fun alt => (dumpAltsetting env alt).acts m :=
  Prog.acts_forEach _ fun _ => result_dumpAltsetting

theorem result_dumpConfig : (dumpConfig env config speed).result m = .ok () := by
  simp [dumpConfig, result_walkExtra configDecoder_returns, Prog.result_forEach,
    result_dumpInterface]

theorem acts_dumpConfig :
    (dumpConfig env config speed).acts m =
      ((configHeader env config speed).acts m).map .shown ++
        ((walkExtra "    ** Bad config-extra bLength %u (%d left)\n"
          (configDecoder env) config.extra).acts m ++
        config.interface.flatMap fun interface => (dumpInterface env interface).acts m) := by
  rw [dumpConfig, acts_display_bind result_configHeader,
    Prog.acts_bind_ok (result_walkExtra configDecoder_returns),
    Prog.acts_forEach _ result_dumpInterface]

theorem visits_dumpEndpoint :
    visits ((dumpEndpoint env interface endpoint).acts m) = descriptors m endpoint.extra := by
  rw [acts_dumpEndpoint, visits_append, visits_shown, visits_walkExtra endpointDecoder_returns,
    List.nil_append]

theorem visits_dumpAltsetting :
    visits ((dumpAltsetting env interface).acts m) = altsettingDescriptors m interface := by
  rw [acts_dumpAltsetting, visits_append, visits_shown, visits_append,
    visits_walkExtra altsettingDecoder_returns, visits_flatMap, List.nil_append]
  simp only [visits_dumpEndpoint, altsettingDescriptors]

theorem visits_dumpConfig :
    visits ((dumpConfig env config speed).acts m) = configDescriptors m config := by
  rw [acts_dumpConfig, visits_append, visits_shown, visits_append,
    visits_walkExtra configDecoder_returns, visits_flatMap, List.nil_append]
  simp only [acts_dumpInterface, visits_flatMap, visits_dumpAltsetting, configDescriptors]

end Usbutils
