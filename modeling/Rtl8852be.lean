import Rtl8852be.Proofs.RxRing
import Rtl8852be.Proofs.WdRecycle
import Rtl8852be.Proofs.H2c
import Rtl8852be.Proofs.WpTag
import Rtl8852be.Proofs.RxBuf
import Rtl8852be.Proofs.ParseElems
import Rtl8852be.Proofs.CoreRx
import Rtl8852be.Proofs.MsgDispatch
import Rtl8852be.Proofs.MsgQueue
import Rtl8852be.Proofs.PktOfld
import Rtl8852be.Proofs.H2cAgg
import Rtl8852be.Proofs.ChanCtx
import Rtl8852be.Proofs.P2ppsNoa
import Rtl8852be.Proofs.Efuse
import Rtl8852be.Proofs.MacRoleKeys
import Rtl8852be.Proofs.MacRoleMirror
import Rtl8852be.Proofs.BrClientTx
import Rtl8852be.Proofs.ReorderDup
import Rtl8852be.Proofs.ReorderRelease
import Rtl8852be.Proofs.CmdSer
import Rtl8852be.Proofs.ApCap
import Rtl8852be.Proofs.Twt
import Rtl8852be.Proofs.CoreSta
import Rtl8852be.Proofs.PhySts
import Rtl8852be.Proofs.CmdScan
import Rtl8852be.Proofs.MccOffset
import Rtl8852be.Proofs.MccOptimal
import Rtl8852be.Proofs.BlockAck
import Rtl8852be.Proofs.ModuleReg
import Rtl8852be.Proofs.SendCheck
import Rtl8852be.Proofs.TxFlow
import Rtl8852be.Proofs.MccNoa
import Rtl8852be.Proofs.VendorAttr
import Rtl8852be.Proofs.RecvData
import Rtl8852be.Proofs.Amsdu
import Rtl8852be.Proofs.StaAlloc
import Rtl8852be.Proofs.IeList
import Rtl8852be.Proofs.Rsne
import Rtl8852be.Proofs.DataCtrl
