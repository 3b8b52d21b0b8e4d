import Rtl8852be.DataCtrl
import Rtl8852be.MsgDispatch

/-!
# System error recovery

`phl_cmd_ser.c`: M1 of the firmware pauses the datapath, M3 resets the hardware and resumes the
receiver, M5 resumes the transmitter, and M9 gives up.
-/

namespace Rtl8852be

inductive CmdSerSrc where
  | unknown
  | int
  | poll
  | intNotify
  deriving DecidableEq

def cmdSerNotOccur : UInt8 := 0
def cmdSerM1 : UInt8 := 0x01
def cmdSerM2 : UInt8 := 0x02
def cmdSerM3 : UInt8 := 0x04
def cmdSerM4 : UInt8 := 0x08
def cmdSerM5 : UInt8 := 0x10
def cmdSerM9 : UInt8 := 0x20

def cmdSerFwTimeout : ℕ := 1000
def cmdSerPollingInterval : ℕ := 10
def cmdSerUsbPollingIntervalIdl : ℕ := 1000
def cmdSerUsbPollingIntervalAct : ℕ := 10

inductive SerNotice where
  | l1
  | l2
  | m2
  | m4
  | clrPendingMsg
  deriving DecidableEq

/-- The pauses that SER holds: its bits of `pause_tx_id` and `pause_rx_id`, and
`is_hw_trx_pause`. -/
structure SerPauses where
  sw : TrxDir → Bool
  hw : Bool

structure CmdSer where
  state : UInt8
  evtsrc : CmdSerSrc
  pollCnt : ℕ
  pollTimer : Option ℕ
  bserl2 : Bool
  pauses : SerPauses
  notices : List SerNotice

/-- Whether the direction was asked to stop already, can be scheduled, is seen paused in time, and
is paused by other modules too, and whether the hardware answers. -/
structure SerIo where
  stopped : Bool
  scheduled : Bool
  polled : Bool
  others : Bool
  hal : Bool

/-- `_phl_sw_tx_pause` and `_phl_sw_rx_pause` for SER. -/
def serSwPause (io : SerIo) (d : TrxDir) (p : SerPauses) : DataCtlStatus × SerPauses :=
  let held := { p with sw := Function.update p.sw d true }
  if io.stopped then (.success, held)
  else if io.scheduled then (if io.polled then .success else .cmdTimeout, held)
  else (.failure, p)

/-- `_phl_sw_tx_resume` and `_phl_sw_rx_resume` for SER. -/
def serSwResume (io : SerIo) (d : TrxDir) (p : SerPauses) : DataCtlStatus × SerPauses :=
  if p.sw d then
    (if io.others || io.scheduled then .success else .failure,
      { p with sw := Function.update p.sw d false })
  else (.failure, p)

/-- `_phl_hw_trx_pause` and `_phl_hw_trx_rst_resume`. -/
def serHwTrx (io : SerIo) (pause : Bool) (p : SerPauses) : DataCtlStatus × SerPauses :=
  if io.hal then (.success, { p with hw := pause }) else (.failure, p)

def serDataCtrler (io : SerIo) (cmd : DataCtlCmd) (p : SerPauses) : DataCtlStatus × SerPauses :=
  match cmd with
  | .swTxPause => serSwPause io .tx p
  | .swRxPause => serSwPause io .rx p
  | .swTxResume => serSwResume io .tx p
  | .swRxResume => serSwResume io .rx p
  | .hwTrxPause => serHwTrx io true p
  | .hwTrxRstResume => serHwTrx io false p
  | .swTxReset => (.success, p)
  | .swRxReset => (.success, p)
  | _ => (.failure, p)

namespace CmdSer

variable (s : CmdSer)

def setTimer (ms : ℕ) : CmdSer := { s with pollTimer := some ms }

def cancelTimer : CmdSer := { s with pollTimer := none }

def tell (n : SerNotice) : CmdSer := { s with notices := s.notices ++ [n] }

def resetStatus : CmdSer :=
  let s := { s with state := cmdSerNotOccur }
  if s.evtsrc = .poll then { s with pollCnt := 0 }.setTimer cmdSerUsbPollingIntervalIdl else s

def setStatus (serstatus : UInt8) : CmdSer := { s with state := s.state ||| serstatus }

def clearStatus (serstatus : UInt8) : CmdSer := { s with state := s.state &&& ~~~serstatus }

def l2Notify : CmdSer := ({ s with bserl2 := true }.tell .clrPendingMsg).tell .l2

/-- `_ser_m2_notify` and `_ser_m4_notify`. -/
def mNotify (done next : UInt8) (n : SerNotice) : CmdSer :=
  ((s.clearStatus done).setStatus next).tell n

def m3M5Waiting : CmdSer :=
  if s.evtsrc = .poll then
    { s with pollCnt := cmdSerPollingInterval }.setTimer cmdSerUsbPollingIntervalAct
  else { s with pollCnt := 0 }.setTimer cmdSerFwTimeout

def giveUp : CmdSer := s.l2Notify.resetStatus

def dataCtrl (io : SerIo) (cmd : DataCtlCmd) : DataCtlStatus × CmdSer :=
  let r := serDataCtrler io cmd s.pauses
  (r.1, { s with pauses := r.2 })

end CmdSer

variable (io : DataCtlCmd → SerIo)

def serCalls : List (DataCtlCmd × (DataCtlStatus → Bool)) → CmdSer → Bool × CmdSer
  | [], s => (true, s)
  | (cmd, accepts) :: cmds, s =>
    let r := s.dataCtrl (io cmd) cmd
    if accepts r.1 then serCalls cmds r.2 else (false, r.2)

def isSuccess (sts : DataCtlStatus) : Bool := sts == .success

/-- With `RTW_WKARD_SER_L1_EXPIRE` the receiver may be late. -/
def isSuccessOrTimeout (sts : DataCtlStatus) : Bool := sts == .success || sts == .cmdTimeout

def serM1PauseTrx (s : CmdSer) : CmdSer :=
  match serCalls io [(.swTxPause, isSuccess), (.hwTrxPause, isSuccess),
      (.swRxPause, isSuccessOrTimeout), (.swTxReset, isSuccess), (.swRxReset, isSuccess)] s with
  | (true, s) => (s.mNotify cmdSerM1 cmdSerM2 .m2).m3M5Waiting
  | (false, s) => s.giveUp

def serM3ResetHwTrx (s : CmdSer) : CmdSer :=
  match serCalls io [(.hwTrxRstResume, isSuccess), (.swRxResume, isSuccess)] s with
  | (true, s) => (s.mNotify cmdSerM3 cmdSerM4 .m4).m3M5Waiting
  | (false, s) => s.giveUp

/-- `_ser_msg_hdl_polling_chk`; an interrupt that is recognized is handled elsewhere. -/
def serMsgHdlPollingChk (recognized : Bool) (s : CmdSer) : CmdSer :=
  if s.evtsrc ≠ .poll then s
  else if recognized then s
  else if 0 < s.pollCnt then
    { s with pollCnt := s.pollCnt - 1 }.setTimer cmdSerUsbPollingIntervalAct
  else s.setTimer cmdSerUsbPollingIntervalIdl

def serMsgHdlM1 (s : CmdSer) : CmdSer :=
  let s := if s.evtsrc = .poll then s.cancelTimer else s
  serM1PauseTrx io ((s.setStatus cmdSerM1).tell .l1)

def serMsgHdlFwExpire (s : CmdSer) : CmdSer :=
  let s := if s.evtsrc = .poll then
    (s.setStatus cmdSerM9).setTimer cmdSerUsbPollingIntervalIdl else s
  { s with bserl2 := true }

def serMsgHdlM3 (s : CmdSer) : CmdSer :=
  serM3ResetHwTrx io ((s.cancelTimer.clearStatus cmdSerM2).setStatus cmdSerM3)

/-- `_ser_msg_hdl_m5`. A transmitter that cannot be resumed is only warned about. -/
def serMsgHdlM5 (s : CmdSer) : CmdSer :=
  let s := (s.cancelTimer.clearStatus cmdSerM4).setStatus cmdSerM5
  let s := (s.dataCtrl (io .swTxResume) .swTxResume).2
  s.resetStatus.tell .clrPendingMsg

def serMsgHdlM9 (s : CmdSer) : CmdSer :=
  let s := s.cancelTimer.setStatus cmdSerM9
  let s := if cmdSerNotOccur < s.state then
      let s := (s.dataCtrl (io .swTxResume) .swTxResume).2
      (s.dataCtrl (io .swRxResume) .swRxResume).2
    else s
  s.l2Notify.resetStatus

inductive SerMsg where
  | pollingChk (recognized : Bool)
  | eventChk
  | m1PauseTrx (io : DataCtlCmd → SerIo)
  | ioTimerExpire
  | fwTimerExpire
  | m3DoRecov (io : DataCtlCmd → SerIo)
  | m5Ready (io : DataCtlCmd → SerIo)
  | m9L2Reset (io : DataCtlCmd → SerIo)

def serHdlInternalEvt (s : CmdSer) : SerMsg → CmdSer
  | .pollingChk recognized => serMsgHdlPollingChk recognized s
  | .eventChk => s
  | .m1PauseTrx io => serMsgHdlM1 io s
  | .ioTimerExpire => s
  | .fwTimerExpire => serMsgHdlFwExpire s
  | .m3DoRecov io => serMsgHdlM3 io s
  | .m5Ready io => serMsgHdlM5 io s
  | .m9L2Reset io => serMsgHdlM9 io s

def serHdlExternalEvt (s : CmdSer) : MdlRet :=
  if s.bserl2 then .fail else if s.state ≠ 0 then .pending else .ignore

/-- `_phl_ser_mdl_init` and `_phl_ser_mdl_start`; nothing is paused. -/
def phlSerMdlStart (evtsrc : CmdSerSrc) : CmdSer :=
  CmdSer.resetStatus ⟨0, evtsrc, 0, none, false, ⟨fun _ => false, false⟩, []⟩

end Rtl8852be
