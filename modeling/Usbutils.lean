import Usbutils.Lib.Prog
import Usbutils.Desc.Tables
import Usbutils.Desc.Dump
import Usbutils.Lib.LittleEndian
import Usbutils.Desc.Layout
import Usbutils.Lib.Packing
import Usbutils.Desc.Slots
import Usbutils.Desc.Render
import Usbutils.Desc.Run
import Usbutils.Desc.Safety
import Usbutils.Desc.Accounting
import Usbutils.Desc.Complete
import Usbutils.Desc.Reference
import Usbutils.Desc.Show
import Usbutils.Desc.RoundTrip
import Usbutils.Desc.Inferred
import Usbutils.Lib.Frames
import Usbutils.Lsusb.Print
import Usbutils.Lsusb.VideoStreaming
import Usbutils.Lsusb.Audio
import Usbutils.Lsusb.AudioUnits
import Usbutils.Lsusb.Comm
import Usbutils.Lsusb.VideoControl
import Usbutils.Lsusb.Report
import Usbutils.Lsusb.Config
import Usbutils.Lsusb.Hid
import Usbutils.Lsusb.ClassDevices
import Usbutils.Lsusb.Standard
import Usbutils.Lsusb.Walk
import Usbutils.Lsusb.Decoders
import Usbutils.Lsusb.DumpConfig
import Usbutils.Lsusb.Shown
import Usbutils.Lsusb.Otg
import Usbutils.Lsusb.Safety
import Usbutils.Lsusb.Bos
import Usbutils.Lib.Bubble
import Usbutils.Lib.Linked
import Usbutils.Lib.Forest
import Usbutils.Tree.Devices
import Usbutils.Tree.Connect
import Usbutils.Tree.Sort
import Usbutils.Tree.Print
import Usbutils.Tree.SysfsName
import Usbutils.Lsusb.ReportItems
import Usbutils.Lib.CString
import Usbutils.Strings.Sanitize
import Usbutils.HidDump.IfaceList
import Usbutils.HidDump.ReportLength
import Usbutils.Lib.Calls
import Usbutils.HidDump.Run
import Usbutils.HidDump.Stream
import Usbutils.HidDump.Cancellation
import Usbutils.HidDump.Transfers
import Usbutils.UsbIds.Parse
import Usbutils.UsbIds.Layout
import Usbutils.UsbIds.Correct
import Usbutils.Tree.Entries
import Usbutils.Tree.Order
import Usbutils.Lsusb.VideoBitmaps
import Usbutils.Desc.Names
import Usbutils.Lsusb.ReportState
import Usbutils.Usbreset.Devices
import Usbutils.Lsusb.VideoNumbers
import Usbutils.Lsusb.Junk
import Usbutils.Lsusb.Accounted
import Usbutils.Lib.Loops
import Usbutils.Lib.Walk
import Usbutils.Paths.Absolute
import Usbutils.Paths.NormalForm
import Usbutils.Paths.Relative
import Usbutils.Paths.Links
import Usbutils.Desc.Extension
import Usbutils.Lsusb.Printer
import Usbutils.Strings.Fallback
import Usbutils.HidDump.Failures
import Usbutils.HidDump.Release
import Usbutils.HidDump.DevList
import Usbutils.Lib.Text
import Usbutils.Lsusb.Unit
import Usbutils.Lsusb.ListDevices
import Usbutils.HidDump.Arguments
import Usbutils.HidDump.Hex
import Usbutils.HidDump.Interval
import Usbutils.Desc.Termination
import Usbutils.Lsusb.Hub
import Usbutils.HidDump.FilterList
import Usbutils.Strings.WebUrl
import Usbutils.Lib.Rings
import Usbutils.Ccan.List
import Usbutils.Ccan.Refinement
import Usbutils.Ccan.ForEach
import Usbutils.Tree.Cleanup
import Usbutils.Lib.Outline
import Usbutils.Lib.PyFormat
import Usbutils.Lib.PyLists
import Usbutils.LsusbPy.Attributes
import Usbutils.LsusbPy.Devices
import Usbutils.LsusbPy.Display
import Usbutils.LsusbPy.Tables
import Usbutils.LsusbPy.OneLine
import Usbutils.LsusbPy.Readable
import Usbutils.LsusbPy.Order
import Usbutils.LsusbPy.Failures
import Usbutils.HidDump.Output
import Usbutils.HidDump.Session
import Usbutils.Lsusb.DumpDevice
import Usbutils.Lsusb.Dumpdev
import Usbutils.Lib.Printf
import Usbutils.Lsusb.Listing
import Usbutils.Usbreset.Main
import Usbutils.Lsusb.OneDevice
