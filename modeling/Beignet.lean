import Beignet.InteractiveTx.Completion
import Beignet.Channel.Quiescence
import Beignet.Channel.Link
import Beignet.Channel.Payout
import Beignet.Channel.Dispatch
import Beignet.Channel.AutoSign
import Beignet.Closing.Agreement
import Beignet.Closing.Simple
import Beignet.Chain.Breach
import Beignet.Ffor.BlindedFees
import Beignet.Ffor.Sealed
import Beignet.Onchain.Replaces
import Beignet.Recovery.Reopens
import Beignet.Invoice.RoundTrip
import Beignet.Swaps.OnePerHash
import Beignet.Liquidity.Exposure
import Beignet.Onion.Peeling
import Beignet.Splice.Ceiling
import Beignet.Channel.OutputOrder
import Beignet.Onion.BlindedPath
import Beignet.Ffor.Freeze
import Beignet.Storage.HtlcHistory
