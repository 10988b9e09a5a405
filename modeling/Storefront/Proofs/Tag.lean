import Storefront.Condition.Operator
import Storefront.Event.Action

namespace Storefront

namespace Json

end Json

end Storefront
