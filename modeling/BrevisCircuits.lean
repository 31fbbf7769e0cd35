import BrevisCircuits.Sdk.Types
import BrevisCircuits.Sdk.Api
import BrevisCircuits.Engine.Pattern
import BrevisCircuits.Engine.Pipeline
import BrevisCircuits.Circuits.Volume
import BrevisCircuits.Circuits.Liquidity
import BrevisCircuits.Circuits.Bidirectional
import BrevisCircuits.Circuits.Twap
import BrevisCircuits.Circuits.LayerzeroMessage
import BrevisCircuits.Circuits.Holdings
import BrevisCircuits.Circuits.NftOwnership
import BrevisCircuits.Properties.Matching
import BrevisCircuits.Properties.Arithmetic
import BrevisCircuits.Properties.Binding
import BrevisCircuits.Properties.Order
import BrevisCircuits.Properties.Refinement
import BrevisCircuits.Properties.Rejection
import BrevisCircuits.Output.Encoding
import BrevisCircuits.Cli.RealQuery
